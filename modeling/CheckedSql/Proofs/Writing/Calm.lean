import CheckedSql.Proofs.Writing.Scan

/-!
# Comments and ends of statements

Outside of quoted tokens, two minus signs start a comment, and so does a slash with an
asterisk behind it.  A semicolon ends a statement, and a lone quote would start a quoted
token.  Pieces without any of these are calm, and they do not end in the first half of such
a mark either, so calm pieces may stand one after the other (`isCalm_append`).

A sign is the one text that is not calm alone.  It needs a piece behind it that is no sign
(`isCalm_sign`).
-/

namespace CheckedSql

/-- Whether a piece starts no comment with the next one, ends no statement and is no quote. -/
def Lexeme.isCalmBefore (next? : Option Lexeme) : Lexeme → Bool
  | symbol c =>
      !isDelimiter c && c != ';' && (c != '-' || next?.any (· != .symbol '-'))
        && (c != '/' || next?.any (· != .symbol '*'))
  | _ => true

/-- Whether pieces, and others behind them, start no comment and end no statement. -/
def isCalm : List Lexeme → Bool
  | [] => true
  | lexeme :: rest => lexeme.isCalmBefore rest.head? && isCalm rest

section Calm

variable {lexeme : Lexeme} {first second found : List Lexeme}

theorem isCalm_cons :
    isCalm (lexeme :: found) = true
      ↔ lexeme.isCalmBefore found.head? = true ∧ isCalm found = true := by
  rw [isCalm, Bool.and_eq_true]

/-- What is calm in front of nothing is calm in front of anything. -/
theorem Lexeme.isCalmBefore_of_none (calm : lexeme.isCalmBefore none = true)
    (next? : Option Lexeme) : lexeme.isCalmBefore next? = true := by
  cases lexeme with
  | symbol c =>
      simp only [isCalmBefore, Option.any_none, Bool.or_false, Bool.and_eq_true] at calm ⊢
      obtain ⟨⟨known, notSign⟩, notSlash⟩ := calm
      exact ⟨⟨known, by rw [notSign, Bool.true_or]⟩, by rw [notSlash, Bool.true_or]⟩
  | word | quoted | placeholder => rfl

theorem isCalm_append (firstCalm : isCalm first = true) (secondCalm : isCalm second = true) :
    isCalm (first ++ second) = true := by
  induction first with
  | nil => exact secondCalm
  | cons lexeme first ih =>
      obtain ⟨here, rest⟩ := isCalm_cons.1 firstCalm
      refine isCalm_cons.2 ⟨?_, ih rest⟩
      cases first with
      | nil => exact Lexeme.isCalmBefore_of_none here _
      | cons next first => exact here

theorem isCalm_of_forall (each : ∀ lexeme ∈ found, lexeme.isCalmBefore none = true) :
    isCalm found = true := by
  induction found with
  | nil => rfl
  | cons lexeme found ih =>
      obtain ⟨here, rest⟩ := List.forall_mem_cons.1 each
      exact isCalm_cons.2 ⟨Lexeme.isCalmBefore_of_none here _, ih rest⟩

/-- A sign in front of what starts with no sign. -/
theorem isCalm_sign (calm : isCalm found = true)
    (notSign : found.head?.any (· != .symbol '-') = true) :
    isCalm (.symbol '-' :: found) = true := by
  refine isCalm_cons.2 ⟨?_, calm⟩
  rw [Lexeme.isCalmBefore, notSign]
  rfl

theorem isCalmBefore_of_adjacent {next : Lexeme} (calm : isCalm found = true)
    (inside : [lexeme, next] <:+: found) : lexeme.isCalmBefore (some next) = true := by
  obtain ⟨before, behind, rfl⟩ := inside
  induction before with
  | nil => exact (isCalm_cons.1 calm).1
  | cons other before ih => exact ih (isCalm_cons.1 calm).2

/-- No two signs stand side by side. -/
theorem no_line_comment_of_isCalm (calm : isCalm found = true) :
    ¬ [.symbol '-', .symbol '-'] <:+: found := fun inside =>
  Bool.false_ne_true (isCalmBefore_of_adjacent calm inside)

/-- No asterisk stands behind a slash. -/
theorem no_block_comment_of_isCalm (calm : isCalm found = true) :
    ¬ [.symbol '/', .symbol '*'] <:+: found := fun inside =>
  Bool.false_ne_true (isCalmBefore_of_adjacent calm inside)

theorem isCalmBefore_of_mem (calm : isCalm found = true) (mem : lexeme ∈ found) :
    ∃ next?, lexeme.isCalmBefore next? = true := by
  induction found with
  | nil => cases mem
  | cons other found ih =>
      obtain ⟨here, rest⟩ := isCalm_cons.1 calm
      rcases List.mem_cons.1 mem with rfl | later
      · exact ⟨_, here⟩
      · exact ih rest later

/-- Calm pieces hold no semicolon. -/
theorem no_semicolon_of_isCalm (calm : isCalm found = true) : .symbol ';' ∉ found := fun mem => by
  obtain ⟨next?, here⟩ := isCalmBefore_of_mem calm mem
  exact Bool.false_ne_true here

/-- Calm pieces hold no lone quote. -/
theorem isDelimiter_of_isCalm (calm : isCalm found = true) {c : Char} (mem : .symbol c ∈ found) :
    isDelimiter c = false := by
  obtain ⟨next?, here⟩ := isCalmBefore_of_mem calm mem
  simp only [Lexeme.isCalmBefore, Bool.and_eq_true, Bool.not_eq_true'] at here
  exact here.1.1.1

end Calm

/-! ## Fixed texts -/

/-- The pieces of a fixed text, which are the same in all dialects. -/
def textPieces (text : String) : List Lexeme := (Dialect.generic.scan text.toList).getD []

/-- A text without quotes and marks is scanned as its pieces. -/
theorem scan_text (dialect : Dialect) {text : String} (harmless : Harmless text.toList) :
    dialect.scan text.toList = some (textPieces text) := by
  obtain ⟨found, read, -⟩ := Dialect.generic.scan_of_harmless harmless
  rw [textPieces, Dialect.scan_eq_scan dialect .generic harmless, read, Option.getD_some]

theorem placeholder_not_mem_textPieces {text : String} (harmless : Harmless text.toList) :
    .placeholder ∉ textPieces text := by
  obtain ⟨found, read, each⟩ := Dialect.generic.scan_of_harmless harmless
  rw [textPieces, read, Option.getD_some]
  intro mem
  rcases each _ mem with ⟨chars, same⟩ | ⟨c, -, -, same⟩ <;> cases same

/-- A text has pieces, and none of them is a placeholder. -/
theorem textPieces_known {text : String} (harmless : Harmless text.toList)
    (nonempty : text.toList ≠ []) : textPieces text ≠ [] ∧ .placeholder ∉ textPieces text := by
  have noPlaceholder := placeholder_not_mem_textPieces harmless
  refine ⟨fun isEmpty => nonempty ?_, noPlaceholder⟩
  rw [← Dialect.spell_of_scan (scan_text .generic harmless) noPlaceholder, isEmpty]
  rfl

/-- Whether a text has no quotes and marks, and its pieces are calm. -/
def isCalmText (text : String) : Bool := text.toList.all isHarmless && isCalm (textPieces text)

section Texts

variable {text : String}

theorem harmless_of_isCalmText (calm : isCalmText text = true) : Harmless text.toList :=
  List.all_eq_true.1 (Bool.and_eq_true _ _ ▸ calm).1

theorem isCalm_of_isCalmText (calm : isCalmText text = true) : isCalm (textPieces text) = true :=
  (Bool.and_eq_true _ _ ▸ calm).2

theorem scan_of_isCalmText (dialect : Dialect) (calm : isCalmText text = true) :
    dialect.scan text.toList = some (textPieces text) :=
  scan_text dialect (harmless_of_isCalmText calm)

end Texts

end CheckedSql
