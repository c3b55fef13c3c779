import CheckedSql.Dialect.Literal

/-!
# Text literals read with escapes

MySQL, as it is set up by default, reads a text between single quotes with escapes.  A
backslash takes the character behind it, whatever that is, and the two stand for one
character or, before a wildcard, for themselves.  Only a quote that no backslash takes ends
the text or is one of two quotes that stand for one.  `readEscaped?` is that reader.

A text literal is written with its quotes doubled and its backslashes as they are, so the
reader does not always get back what was written.  It stops behind the literal exactly if
no backslash takes a quote (`exists_readEscaped?_iff`), and then it has read the text with
its escapes resolved.  It gets back the text itself exactly if each backslash of the text
stands in front of one of the two wildcards, which keep it (`readEscaped?_eq_some_iff`).
-/

namespace CheckedSql

/-! ## The reader -/

/-- What a character stands for behind a backslash.  The wildcards of a pattern keep it. -/
def unescaped : Char → List Char
  | '0' => ['\x00']
  | 'b' => ['\x08']
  | 't' => ['\t']
  | 'n' => ['\n']
  | 'r' => ['\r']
  | 'Z' => ['\x1a']
  | '%' => ['\\', '%']
  | '_' => ['\\', '_']
  | c => [c]

/-- Reads the rest of a text with escapes up to its closing quote, and returns its content and what
follows. -/
def readEscapedRest? : List Char → Option (List Char × List Char)
  | [] => none
  | [c] => if c = '\'' then some ([], []) else none
  | c :: next :: rest =>
      if c = '\\' then
        (readEscapedRest? rest).map fun (content, after) => (unescaped next ++ content, after)
      else if c = '\'' then
        if next = '\'' then
          (readEscapedRest? rest).map fun (content, after) => (c :: content, after)
        else some ([], next :: rest)
      else (readEscapedRest? (next :: rest)).map fun (content, after) => (c :: content, after)

/-- Reads a text with escapes from its opening quote, and returns its content and what follows. -/
def readEscaped? : List Char → Option (List Char × List Char)
  | [] => none
  | c :: rest => if c = '\'' then readEscapedRest? rest else none

example : readEscaped? "'a\\'b\\\\''' c".toList = some ("a'b\\'".toList, " c".toList) := by decide

section Equations

variable {c next : Char} {rest content after : List Char}

/-- A text that was read behind other characters. -/
theorem map_read_eq_some (front : List Char) {read? : Option (List Char × List Char)} :
    (read?.map fun (content, after) => (front ++ content, after)) = some (content, after)
      ↔ ∃ inner, read? = some (inner, after) ∧ content = front ++ inner := by
  constructor
  · intro read
    obtain ⟨⟨inner, _⟩, innerRead, ⟨⟩⟩ := Option.map_eq_some_iff.1 read
    exact ⟨inner, innerRead, rfl⟩
  · rintro ⟨inner, rfl, rfl⟩
    rfl

/-- Two texts that were read one behind the other. -/
theorem exists_append_iff {p : List Char → Prop} {front text : List Char} :
    (∃ inner, (∃ last, p last ∧ inner = text ++ last) ∧ content = front ++ inner)
      ↔ ∃ last, p last ∧ content = front ++ (text ++ last) := by
  constructor
  · rintro ⟨_, ⟨last, fits, rfl⟩, rfl⟩
    exact ⟨last, fits, rfl⟩
  · rintro ⟨last, fits, rfl⟩
    exact ⟨_, ⟨last, fits, rfl⟩, rfl⟩

theorem readEscapedRest?_escape :
    readEscapedRest? ('\\' :: next :: rest) = some (content, after)
      ↔ ∃ inner, readEscapedRest? rest = some (inner, after)
        ∧ content = unescaped next ++ inner := map_read_eq_some _

theorem readEscapedRest?_doubled :
    readEscapedRest? ('\'' :: '\'' :: rest) = some (content, after)
      ↔ ∃ inner, readEscapedRest? rest = some (inner, after) ∧ content = ['\''] ++ inner :=
  map_read_eq_some ['\'']

theorem readEscapedRest?_closing (apart : ∀ others, rest ≠ '\'' :: others) :
    readEscapedRest? ('\'' :: rest) = some ([], rest) := by
  cases rest with
  | nil => rfl
  | cons next rest =>
      have differs : next ≠ '\'' := fun same => apart rest (by rw [same])
      simp [readEscapedRest?, differs]

theorem readEscapedRest?_other (noEscape : c ≠ '\\') (noQuote : c ≠ '\'') :
    readEscapedRest? (c :: rest) = some (content, after)
      ↔ ∃ inner, readEscapedRest? rest = some (inner, after) ∧ content = [c] ++ inner := by
  cases rest with
  | nil => simp [readEscapedRest?, noQuote]
  | cons next rest =>
      rw [readEscapedRest?, if_neg noEscape, if_neg noQuote]
      exact map_read_eq_some [c]

end Equations

/-- The rest after a text is shorter than what was read. -/
theorem length_lt_of_readEscapedRest? {chars content after : List Char}
    (read : readEscapedRest? chars = some (content, after)) : after.length < chars.length := by
  induction chars using readEscapedRest?.induct generalizing content with
  | case1 => cases read
  | case2 =>
      cases read
      exact Nat.zero_lt_one
  | case3 c noQuote => simp [readEscapedRest?, noQuote] at read
  | case4 next rest ih =>
      obtain ⟨inner, innerRead, -⟩ := readEscapedRest?_escape.1 read
      exact Nat.lt_succ_of_lt (Nat.lt_succ_of_lt (ih innerRead))
  | case5 rest _ ih =>
      obtain ⟨inner, innerRead, -⟩ := readEscapedRest?_doubled.1 read
      exact Nat.lt_succ_of_lt (Nat.lt_succ_of_lt (ih innerRead))
  | case6 next rest noQuote =>
      rw [readEscapedRest?_closing (by simp [noQuote])] at read
      cases read
      exact Nat.lt_succ_self _
  | case7 c next rest noEscape noQuote ih =>
      obtain ⟨inner, innerRead, -⟩ := (readEscapedRest?_other noEscape noQuote).1 read
      exact Nat.lt_succ_of_lt (ih innerRead)

/-! ## What becomes of a text -/

/-- A text with its escapes resolved. -/
def unescapedText : List Char → List Char
  | [] => []
  | [c] => [c]
  | c :: next :: rest =>
      if c = '\\' then unescaped next ++ unescapedText rest else c :: unescapedText (next :: rest)

/-- Whether no backslash of a text takes a quote, be it one of the text or the one behind it. -/
def leavesQuotes : List Char → Bool
  | [] => true
  | [c] => c != '\\'
  | c :: next :: rest =>
      if c = '\\' then next != '\'' && leavesQuotes rest else leavesQuotes (next :: rest)

/-- Whether every escape of a text stands for itself. -/
def isVerbatim : List Char → Bool
  | [] => true
  | [c] => c != '\\'
  | c :: next :: rest =>
      if c = '\\' then (next == '%' || next == '_') && isVerbatim rest
      else isVerbatim (next :: rest)

example : leavesQuotes "C:\\new".toList = true ∧ isVerbatim "C:\\new".toList = false := by decide

theorem doubled_of_ne {delimiter c : Char} (differs : c ≠ delimiter) (text : List Char) :
    doubled delimiter (c :: text) = c :: doubled delimiter text := if_neg differs

/-- A text that leaves quotes alone is read in front of any other one. -/
theorem readEscapedRest?_of_leavesQuotes {text : List Char} (leaves : leavesQuotes text = true)
    {rest content after : List Char} :
    readEscapedRest? (doubled '\'' text ++ '\'' :: rest) = some (content, after)
      ↔ ∃ inner, readEscapedRest? ('\'' :: rest) = some (inner, after)
        ∧ content = unescapedText text ++ inner := by
  have doubledQuote (text : List Char) :
      doubled '\'' ('\'' :: text) = '\'' :: '\'' :: doubled '\'' text := rfl
  induction text using leavesQuotes.induct generalizing content with
  | case1 => simp [doubled, unescapedText]
  | case2 c =>
      have noEscape : c ≠ '\\' := by simpa [leavesQuotes] using leaves
      by_cases isQuote : c = '\''
      · subst isQuote
        exact readEscapedRest?_doubled
      · rw [doubled_of_ne isQuote]
        exact readEscapedRest?_other noEscape isQuote
  | case3 next text ih =>
      rw [leavesQuotes, if_pos rfl, Bool.and_eq_true, bne_iff_ne] at leaves
      rw [doubled_of_ne (by decide), doubled_of_ne leaves.1, unescapedText, if_pos rfl]
      simp only [List.cons_append, readEscapedRest?_escape, ih leaves.2, List.append_assoc]
      exact exists_append_iff
  | case4 c next text noEscape ih =>
      rw [leavesQuotes, if_neg noEscape] at leaves
      rw [unescapedText, if_neg noEscape]
      by_cases isQuote : c = '\''
      · subst isQuote
        rw [doubledQuote, List.cons_append, List.cons_append, readEscapedRest?_doubled]
        simp only [ih leaves]
        exact exists_append_iff
      · rw [doubled_of_ne isQuote, List.cons_append, readEscapedRest?_other noEscape isQuote]
        simp only [ih leaves]
        exact exists_append_iff

/-- A quote that is left in front of a text is never behind it. -/
theorem readEscapedRest?_ne_of_quote (text after content : List Char) :
    readEscapedRest? ('\'' :: (doubled '\'' text ++ '\'' :: after)) ≠ some (content, after) := by
  induction text generalizing content with
  | nil =>
      intro read
      obtain ⟨inner, innerRead, -⟩ := readEscapedRest?_doubled.1 read
      exact Nat.lt_irrefl _ (length_lt_of_readEscapedRest? innerRead)
  | cons c text ih =>
      intro read
      by_cases isQuote : c = '\''
      · subst isQuote
        obtain ⟨inner, innerRead, -⟩ := readEscapedRest?_doubled.1 read
        exact ih inner innerRead
      · rw [doubled_of_ne isQuote, List.cons_append,
          readEscapedRest?_closing (by simp [isQuote])] at read
        have longer : (c :: (doubled '\'' text ++ '\'' :: after)).length = after.length := by
          rw [(Prod.mk.inj (Option.some.inj read)).2]
        simp only [List.length_cons, List.length_append] at longer
        omega

/-- A text that is read up to its closing quote leaves quotes alone. -/
theorem leavesQuotes_of_readEscapedRest? {text content after : List Char}
    (read : readEscapedRest? (doubled '\'' text ++ '\'' :: after) = some (content, after)) :
    leavesQuotes text = true := by
  induction text using leavesQuotes.induct generalizing content with
  | case1 => rfl
  | case2 c =>
      rw [leavesQuotes, bne_iff_ne]
      rintro rfl
      obtain ⟨inner, innerRead, -⟩ := readEscapedRest?_escape.1 read
      exact Nat.lt_irrefl _ (length_lt_of_readEscapedRest? innerRead)
  | case3 next text ih =>
      rw [leavesQuotes, if_pos rfl, Bool.and_eq_true, bne_iff_ne]
      rw [doubled_of_ne (by decide)] at read
      by_cases isQuote : next = '\''
      · subst isQuote
        obtain ⟨inner, innerRead, -⟩ := readEscapedRest?_escape.1 read
        exact absurd innerRead (readEscapedRest?_ne_of_quote text after inner)
      · rw [doubled_of_ne isQuote] at read
        obtain ⟨inner, innerRead, -⟩ := readEscapedRest?_escape.1 read
        exact ⟨isQuote, ih innerRead⟩
  | case4 c next text noEscape ih =>
      rw [leavesQuotes, if_neg noEscape]
      by_cases isQuote : c = '\''
      · subst isQuote
        obtain ⟨inner, innerRead, -⟩ := readEscapedRest?_doubled.1 read
        exact ih innerRead
      · rw [doubled_of_ne isQuote] at read
        obtain ⟨inner, innerRead, -⟩ := (readEscapedRest?_other noEscape isQuote).1 read
        exact ih innerRead

/-! ## Texts that are read as they are -/

/-- How many backslashes a text starts with. -/
def leadingEscapes (text : List Char) : Nat := (text.takeWhile (· == '\\')).length

@[simp] theorem leadingEscapes_backslash (text : List Char) :
    leadingEscapes ('\\' :: text) = leadingEscapes text + 1 := by
  simp [leadingEscapes]

theorem leadingEscapes_of_ne {c : Char} (differs : c ≠ '\\') (text : List Char) :
    leadingEscapes (c :: text) = 0 := by
  simp [leadingEscapes, differs]

theorem leadingEscapes_doubled (text after : List Char) :
    leadingEscapes (doubled '\'' text ++ '\'' :: after) = leadingEscapes text := by
  induction text with
  | nil => rfl
  | cons c text ih =>
      by_cases isQuote : c = '\''
      · subst isQuote
        rfl
      · rw [doubled_of_ne isQuote, List.cons_append]
        by_cases isEscape : c = '\\'
        · rw [isEscape, leadingEscapes_backslash, leadingEscapes_backslash, ih]
        · rw [leadingEscapes_of_ne isEscape, leadingEscapes_of_ne isEscape]

/-- Only a backslash and the wildcards stand for something that starts with a backslash. -/
theorem unescaped_of_ne {c : Char} (noEscape : c ≠ '\\') (noWildcard : ¬ (c = '%' ∨ c = '_')) :
    ∃ other, other ≠ '\\' ∧ unescaped c = [other] := by
  unfold unescaped
  split
  case h_7 | h_8 => simp at noWildcard
  case h_9 => exact ⟨c, noEscape, rfl⟩
  all_goals exact ⟨_, by decide, rfl⟩

/-- Of the backslashes that a text starts with, at most every other one is read, but for one in
front of a wildcard. -/
theorem leadingEscapes_of_readEscapedRest? {chars content after : List Char}
    (read : readEscapedRest? chars = some (content, after)) :
    2 * leadingEscapes content ≤ leadingEscapes chars + 1 := by
  induction chars using readEscapedRest?.induct generalizing content with
  | case1 => cases read
  | case2 =>
      cases read
      exact Nat.zero_le _
  | case3 c noQuote => simp [readEscapedRest?, noQuote] at read
  | case4 next rest ih =>
      obtain ⟨inner, innerRead, rfl⟩ := readEscapedRest?_escape.1 read
      have few := ih innerRead
      by_cases isEscape : next = '\\'
      · subst isEscape
        have same : leadingEscapes (unescaped '\\' ++ inner) = leadingEscapes inner + 1 :=
          leadingEscapes_backslash inner
        rw [leadingEscapes_backslash, leadingEscapes_backslash, same]
        omega
      · rw [leadingEscapes_backslash, leadingEscapes_of_ne isEscape]
        by_cases isWildcard : next = '%' ∨ next = '_'
        · rcases isWildcard with rfl | rfl <;> exact Nat.le_refl _
        · obtain ⟨other, differs, same⟩ := unescaped_of_ne isEscape isWildcard
          rw [same, List.singleton_append, leadingEscapes_of_ne differs]
          exact Nat.zero_le _
  | case5 rest _ ih =>
      obtain ⟨inner, -, rfl⟩ := readEscapedRest?_doubled.1 read
      exact Nat.zero_le _
  | case6 next rest noQuote =>
      rw [readEscapedRest?_closing (by simp [noQuote])] at read
      cases read
      exact Nat.zero_le _
  | case7 c next rest noEscape noQuote ih =>
      obtain ⟨inner, -, rfl⟩ := (readEscapedRest?_other noEscape noQuote).1 read
      rw [List.singleton_append, leadingEscapes_of_ne noEscape]
      exact Nat.zero_le _

/-- A text that is read back as itself has no escapes but those that stand for themselves. -/
theorem isVerbatim_of_readEscapedRest? {text rest after : List Char}
    (read : readEscapedRest? (doubled '\'' text ++ '\'' :: rest) = some (text, after)) :
    isVerbatim text = true := by
  induction text using isVerbatim.induct with
  | case1 => rfl
  | case2 c =>
      rw [isVerbatim, bne_iff_ne]
      rintro rfl
      obtain ⟨inner, -, same⟩ := readEscapedRest?_escape.1 read
      cases same
  | case3 next text ih =>
      rw [isVerbatim, if_pos rfl, Bool.and_eq_true, Bool.or_eq_true, beq_iff_eq, beq_iff_eq]
      rw [doubled_of_ne (by decide)] at read
      by_cases isQuote : next = '\''
      · subst isQuote
        obtain ⟨inner, -, same⟩ := readEscapedRest?_escape.1 read
        cases same
      · rw [doubled_of_ne isQuote] at read
        obtain ⟨inner, innerRead, same⟩ := readEscapedRest?_escape.1 read
        by_cases isEscape : next = '\\'
        · -- The two backslashes are read as one, so too few of them are left.
          subst isEscape
          obtain rfl : inner = '\\' :: text := (List.cons.inj same).2.symm
          have few : 2 * leadingEscapes ('\\' :: text)
              ≤ leadingEscapes (doubled '\'' text ++ '\'' :: rest) + 1 :=
            leadingEscapes_of_readEscapedRest? innerRead
          rw [leadingEscapes_doubled, leadingEscapes_backslash] at few
          omega
        · by_cases isWildcard : next = '%' ∨ next = '_'
          · refine ⟨isWildcard, ih ?_⟩
            have kept : unescaped next = ['\\', next] := by rcases isWildcard with rfl | rfl <;> rfl
            rw [kept] at same
            obtain rfl : text = inner := (List.cons.inj (List.cons.inj same).2).2
            exact innerRead
          · obtain ⟨other, differs, single⟩ := unescaped_of_ne isEscape isWildcard
            rw [single] at same
            exact absurd (List.cons.inj same).1.symm differs
  | case4 c next text noEscape ih =>
      rw [isVerbatim, if_neg noEscape]
      by_cases isQuote : c = '\''
      · subst isQuote
        obtain ⟨inner, innerRead, same⟩ := readEscapedRest?_doubled.1 read
        obtain rfl := (List.cons.inj same).2
        exact ih innerRead
      · rw [doubled_of_ne isQuote] at read
        obtain ⟨inner, innerRead, same⟩ := (readEscapedRest?_other noEscape isQuote).1 read
        obtain rfl := (List.cons.inj same).2
        exact ih innerRead

/-- Escapes that stand for themselves take no quote and leave the text as it is. -/
theorem of_isVerbatim {text : List Char} (verbatim : isVerbatim text = true) :
    leavesQuotes text = true ∧ unescapedText text = text := by
  induction text using isVerbatim.induct with
  | case1 => exact ⟨rfl, rfl⟩
  | case2 c => exact ⟨verbatim, rfl⟩
  | case3 next text ih =>
      rw [isVerbatim, if_pos rfl, Bool.and_eq_true, Bool.or_eq_true, beq_iff_eq,
        beq_iff_eq] at verbatim
      obtain ⟨leaves, same⟩ := ih verbatim.2
      rw [leavesQuotes, unescapedText, if_pos rfl, if_pos rfl, leaves, same]
      rcases verbatim.1 with rfl | rfl <;> exact ⟨rfl, rfl⟩
  | case4 c next text noEscape ih =>
      rw [isVerbatim, if_neg noEscape] at verbatim
      rw [leavesQuotes, unescapedText, if_neg noEscape, if_neg noEscape, (ih verbatim).2]
      exact ⟨(ih verbatim).1, rfl⟩

/-- A text without backslashes has no escapes. -/
theorem isVerbatim_of_not_mem {text : List Char} (none : '\\' ∉ text) : isVerbatim text = true := by
  induction text using isVerbatim.induct with
  | case1 => rfl
  | case2 c =>
      rw [isVerbatim, bne_iff_ne]
      rintro rfl
      exact none (.head _)
  | case3 next text _ => exact absurd (.head _) none
  | case4 c next text noEscape ih =>
      rw [isVerbatim, if_neg noEscape]
      exact ih fun mem => none (.tail _ mem)

/-! ## Text literals -/

section Literals

variable {text : String} {after : List Char}

theorem readEscaped?_textLiteral :
    readEscaped? ((Dialect.textLiteral text).toList ++ after)
      = readEscapedRest? (doubled '\'' text.toList ++ '\'' :: after) := by
  simp [Dialect.textLiteral, quotedBy, readEscaped?]

/-- A text literal is read up to its last character exactly if no backslash takes a quote. -/
theorem exists_readEscaped?_iff (apart : ∀ rest, after ≠ '\'' :: rest) :
    (∃ content, readEscaped? ((Dialect.textLiteral text).toList ++ after) = some (content, after))
      ↔ leavesQuotes text.toList = true := by
  rw [readEscaped?_textLiteral]
  refine ⟨fun ⟨_, read⟩ => leavesQuotes_of_readEscapedRest? read, fun leaves => ?_⟩
  exact ⟨_, (readEscapedRest?_of_leavesQuotes leaves).2 ⟨[], readEscapedRest?_closing apart, rfl⟩⟩

/-- A text literal is read back as its text exactly if every escape in it stands for itself and no
further quote follows. -/
theorem readEscaped?_eq_some_iff :
    readEscaped? ((Dialect.textLiteral text).toList ++ after) = some (text.toList, after)
      ↔ isVerbatim text.toList = true ∧ ∀ rest, after ≠ '\'' :: rest := by
  rw [readEscaped?_textLiteral]
  constructor
  · intro read
    have verbatim := isVerbatim_of_readEscapedRest? read
    refine ⟨verbatim, ?_⟩
    rintro rest rfl
    obtain ⟨inner, innerRead, -⟩ :=
      (readEscapedRest?_of_leavesQuotes (of_isVerbatim verbatim).1).1 read
    obtain ⟨last, lastRead, -⟩ := readEscapedRest?_doubled.1 innerRead
    have shorter := length_lt_of_readEscapedRest? lastRead
    rw [List.length_cons] at shorter
    omega
  · rintro ⟨verbatim, apart⟩
    obtain ⟨leaves, same⟩ := of_isVerbatim verbatim
    refine (readEscapedRest?_of_leavesQuotes leaves).2 ⟨[], readEscapedRest?_closing apart, ?_⟩
    rw [same, List.append_nil]

end Literals

end CheckedSql
