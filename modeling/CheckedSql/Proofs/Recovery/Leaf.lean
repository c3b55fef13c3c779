import CheckedSql.Proofs.Recovery.Reader

/-!
# Reading columns, values and placeholders

The pieces of a column, of a placeholder and of most values have no break among them, and no
text that opens an operand starts them, so they are read as one run.  A number with a sign is
read as the negated number, which has the same form.  A date and a point in time are opened by
the word in front of their text.
-/

namespace CheckedSql

/-! ## Runs of pieces -/

/-- The words that start a value. -/
def valueWords : List String := ["NULL", "true", "false", "x"]

/-- Whether pieces may be those of a text that opens an operand.  Such a text starts neither with a
number or the word of a value nor like a column. -/
def isOpening : List Lexeme → Bool
  | .symbol _ :: _ => true
  | .word text :: more =>
      !text.toList.head?.any Char.isDigit && !valueWords.contains text
        && more.head?.elim (isReservedWord text) (· != .symbol '.')
  | _ => false

/-- Nothing is opened if no text that opens something can be in front. -/
theorem lookup?_openings_eq_none {found : List Lexeme}
    (notOpening : ∀ key, key <+: found → isOpening key = false) :
    lookup? openings found = none := by
  have areOpenings : (openings.all fun entry => isOpening (textPieces entry.1)) = true := by
    decide +kernel
  refine lookup?_eq_none.2 fun entry mem starts => ?_
  have isOpening := List.all_eq_true.1 areOpenings entry mem
  rw [notOpening _ starts] at isOpening
  cases isOpening

section Runs

variable {lexeme : Lexeme} {run rest : List Lexeme}

/-- What starts with such a piece opens nothing. -/
theorem lookup?_openings_of_head (notOpening : ∀ more, isOpening (lexeme :: more) = false)
    (run rest : List Lexeme) : lookup? openings (lexeme :: run ++ rest) = none := by
  refine lookup?_openings_eq_none fun key starts => ?_
  cases key with
  | nil => rfl
  | cons first more =>
      obtain ⟨rfl, -⟩ := List.cons_prefix_cons.1 starts
      exact notOpening more

/-- A run of pieces without a break is read up to the next break. -/
theorem readAtom_append (noBreak : ∀ lexeme ∈ run, lexeme.isBreak = false)
    (breaks : rest.head?.all Lexeme.isBreak = true) :
    readAtom (run ++ rest) = some (atomForm run, rest) := by
  have goesOn : ∀ lexeme ∈ run, (!lexeme.isBreak) = true := fun lexeme mem => by
    rw [noBreak lexeme mem]
    rfl
  have taken : rest.takeWhile (fun lexeme => !lexeme.isBreak) = [] := by
    cases rest with
    | nil => rfl
    | cons first rest => simp_all
  have dropped : rest.dropWhile (fun lexeme => !lexeme.isBreak) = rest := by
    cases rest with
    | nil => rfl
    | cons first rest => simp_all
  rw [readAtom, List.takeWhile_append_of_pos goesOn, List.dropWhile_append_of_pos goesOn, taken,
    dropped, List.append_nil]

/-- A run of pieces is read as an operand. -/
theorem readOperand_run {dialect : Dialect} (noOpening : lookup? openings (run ++ rest) = none)
    (noBreak : ∀ lexeme ∈ run, lexeme.isBreak = false) (follows : Follows rest) (bound : Nat) :
    readOperand dialect (bound + 1) (run ++ rest) = some (atomForm run, rest) := by
  rw [readOperand, noOpening]
  exact readAtom_append noBreak follows.isBreak_head?

end Runs

/-! ## Columns and placeholders -/

/-- A bare name starts with no digit, and it is no reserved word. -/
theorem identifier?_of_bare {name : String} (bare : needsQuoting name = false) :
    (Lexeme.word name).identifier? = some name ∧ isReservedWord name = false := by
  have noDigit := isDigit_head_of_bare bare
  unfold needsQuoting at bare
  split at bare
  · cases bare
  · next first rest chars =>
      rw [Bool.or_eq_false_iff] at bare
      refine ⟨?_, bare.2⟩
      rw [chars, List.head?_cons, Option.any_some] at noDigit
      simp [Lexeme.identifier?, chars, noDigit]

/-- The piece of a name. -/
def Dialect.namePiece (dialect : Dialect) (name : String) : Lexeme :=
  if needsQuoting name then .quoted dialect.nameDelimiter name else .word name

section Names

variable (dialect : Dialect)

theorem Dialect.identifier?_namePiece (name : String) :
    (dialect.namePiece name).identifier? = some name := by
  unfold namePiece
  split
  · cases dialect <;> rfl
  · next bare => exact (identifier?_of_bare (Bool.not_eq_true _ ▸ bare)).1

theorem Dialect.isBreak_namePiece (name : String) : (dialect.namePiece name).isBreak = false := by
  unfold namePiece
  split <;> rfl

/-- A name with a point behind it opens nothing. -/
theorem Dialect.lookup?_openings_namePiece (name : String) (rest : List Lexeme) :
    lookup? openings (dialect.namePiece name :: .symbol '.' :: rest) = none := by
  refine lookup?_openings_eq_none fun key starts => ?_
  cases key with
  | nil => rfl
  | cons first more =>
      obtain ⟨rfl, behind⟩ := List.cons_prefix_cons.1 starts
      unfold namePiece
      split
      · rfl
      · next bare =>
          have notReserved := (identifier?_of_bare (Bool.not_eq_true _ ▸ bare)).2
          cases more with
          | nil => simp [isOpening, notReserved]
          | cons second more =>
              obtain ⟨rfl, -⟩ := List.cons_prefix_cons.1 behind
              simp [isOpening]

variable {rest : List Lexeme}

theorem readOperand_column (column : Column) (follows : Follows rest) (bound : Nat) :
    readOperand dialect (bound + 1) (dialect.pieces column.tokens ++ rest)
      = some (.column column.qualifier column.name, rest) := by
  have pieces : dialect.pieces column.tokens
      = [dialect.namePiece column.qualifier, .symbol '.', dialect.namePiece column.name] := rfl
  have form : atomForm (dialect.pieces column.tokens)
      = .column column.qualifier column.name := by
    simp [pieces, atomForm, columnNames?, dialect.identifier?_namePiece]
  rw [← form]
  refine readOperand_run ?_ ?_ follows bound
  · exact dialect.lookup?_openings_namePiece column.qualifier _
  · have point : (Lexeme.symbol '.').isBreak = false := rfl
    simp [pieces, dialect.isBreak_namePiece, point]

theorem readOperand_placeholder (follows : Follows rest) (bound : Nat) :
    readOperand dialect (bound + 1) (.placeholder :: rest) = some (.parameter, rest) := by
  have noOpening : lookup? openings ([.placeholder] ++ rest) = none :=
    lookup?_openings_of_head (fun _ => rfl) [] rest
  exact readOperand_run noOpening (List.forall_mem_singleton.2 rfl) follows bound

end Names

/-! ## Values -/

/-- The pieces are read as one run, and not as a column or a placeholder. -/
structure IsValueRun (run : List Lexeme) : Prop where
  noOpening : ∀ rest, lookup? openings (run ++ rest) = none
  noBreak : ∀ lexeme ∈ run, lexeme.isBreak = false
  noColumn : columnNames? run = none
  noPlaceholder : run ≠ [.placeholder]

/-- What starts with no name is no column. -/
theorem columnNames?_eq_none {first : Lexeme} (noName : first.identifier? = none)
    (others : List Lexeme) : columnNames? (first :: others) = none := by
  unfold columnNames?
  split
  · next same =>
      cases same
      simp [noName]
  · rfl

theorem UnsignedPieces.isBreak {found : List Lexeme} (pieces : UnsignedPieces found) :
    ∀ lexeme ∈ found, lexeme.isBreak = false := by
  intro lexeme mem
  rcases pieces.each lexeme mem with ⟨text, rfl⟩ | rfl <;> rfl

/-- A number without a sign is a run that starts with a digit. -/
theorem PositivePieces.isValueRun {found : List Lexeme} (pieces : PositivePieces found) :
    IsValueRun found ∧ (found.flatMap Lexeme.spell).head? ≠ some '-' := by
  have noBreak : ∀ lexeme ∈ found, lexeme.isBreak = false := by
    cases pieces with
    | unsigned unsigned => exact unsigned.isBreak
    | exponent front digits =>
        exact List.forall_mem_append.2 ⟨front.isBreak, List.forall_mem_cons.2 ⟨rfl, digits.isBreak⟩⟩
  obtain ⟨text, others, rfl, digit⟩ := pieces.starts
  refine ⟨⟨lookup?_openings_of_head (fun more => ?_) others, noBreak,
    columnNames?_eq_none ?_ others, nofun⟩, ?_⟩
  · simp [isOpening, digit]
  · simp [Lexeme.identifier?, digit]
  · obtain ⟨c, isFirst, isDigit⟩ := (Option.any_eq_true _ _).1 digit
    rw [List.flatMap_cons, Lexeme.spell, List.head?_append, isFirst]
    rintro ⟨⟩
    cases isDigit

section Values

variable (dialect : Dialect) {run found rest : List Lexeme}

theorem readOperand_value (isRun : IsValueRun run) (follows : Follows rest) (bound : Nat) :
    readOperand dialect (bound + 1) (run ++ rest)
      = some (.literal (.ofList (run.flatMap Lexeme.spell)), rest) := by
  have form : atomForm run = .literal (.ofList (run.flatMap Lexeme.spell)) := by
    simp [atomForm, isRun.noColumn, isRun.noPlaceholder]
  rw [← form]
  exact readOperand_run (isRun.noOpening rest) isRun.noBreak follows bound

/-- A negative number is read as the negated number. -/
theorem readOperand_negative (isRun : IsValueRun run)
    (notSign : (run.flatMap Lexeme.spell).head? ≠ some '-') (follows : Follows rest) (bound : Nat) :
    readOperand dialect (bound + 2) (.symbol '-' :: (run ++ rest))
      = some (.literal (.ofList ('-' :: run.flatMap Lexeme.spell)), rest) := by
  have sign : lookup? openings (.symbol '-' :: (run ++ rest))
      = some (.unary .negate, run ++ rest) :=
    lookup?_append openings_distinct (.head _) (run ++ rest)
  have text : "-" ++ String.ofList (run.flatMap Lexeme.spell)
      = .ofList ('-' :: run.flatMap Lexeme.spell) := by
    rw [← String.toList_inj]
    simp
  have negated : UnaryOperator.negate.form (.literal (.ofList (run.flatMap Lexeme.spell)))
      = .literal (.ofList ('-' :: run.flatMap Lexeme.spell)) := by
    rw [UnaryOperator.form, String.toList_ofList, if_neg notSign, text]
  rw [readOperand, sign, ← negated]
  simp only [Opening.read, readOperand_value dialect isRun follows, Option.bind_eq_bind,
    Option.bind_some]

/-- A value that a word in front of it opens. -/
theorem readOperand_opened {front : String} (found : List Lexeme)
    (mem : (front, .literal front found.length) ∈ openings)
    (spelled : (textPieces front).flatMap Lexeme.spell = front.toList) (bound : Nat) :
    readOperand dialect (bound + 1) (textPieces front ++ (found ++ rest))
      = some (.literal (.ofList ((textPieces front ++ found).flatMap Lexeme.spell)), rest) := by
  have text : front ++ String.ofList (found.flatMap Lexeme.spell)
      = .ofList ((textPieces front ++ found).flatMap Lexeme.spell) := by
    rw [← String.toList_inj]
    simp [spelled]
  rw [readOperand, lookup?_append openings_distinct mem]
  show (Opening.literal front found.length).read dialect _ _ (found ++ rest) = _
  rw [Opening.read, List.take_left, List.drop_left, text]

/-- The pieces of a written value are read as its text. -/
theorem LiteralPieces.readOperand (pieces : LiteralPieces found) (follows : Follows rest)
    (bound : Nat) :
    readOperand dialect (bound + 2) (found ++ rest)
      = some (.literal (.ofList (found.flatMap Lexeme.spell)), rest) := by
  cases pieces with
  | @word text mem =>
      have isRun : IsValueRun [.word text] := by
        refine ⟨lookup?_openings_of_head (fun more => ?_) [], List.forall_mem_singleton.2 rfl, rfl,
          nofun⟩
        simp only [List.mem_cons, List.not_mem_nil, or_false] at mem
        rcases mem with rfl | rfl | rfl <;> rfl
      exact readOperand_value dialect isRun follows (bound + 1)
  | number number =>
      cases number with
      | positive positive =>
          exact readOperand_value dialect positive.isValueRun.1 follows (bound + 1)
      | negative positive =>
          obtain ⟨isRun, notSign⟩ := positive.isValueRun
          exact readOperand_negative dialect isRun notSign follows bound
  | @quoted before behind content mem =>
      simp only [literalFramePieces, List.mem_cons, Prod.mk.injEq, List.not_mem_nil,
        or_false] at mem
      rcases mem with ⟨rfl, rfl⟩ | ⟨rfl, rfl⟩ | ⟨rfl, rfl⟩ | ⟨rfl, rfl⟩ | ⟨rfl, rfl⟩ | ⟨rfl, rfl⟩
      · have isRun : IsValueRun [.quoted '\'' content] :=
          ⟨lookup?_openings_of_head (fun _ => rfl) [], by simp [Lexeme.isBreak], rfl, nofun⟩
        exact readOperand_value dialect isRun follows (bound + 1)
      · have isRun : IsValueRun [.word "x", .quoted '\'' content] :=
          ⟨lookup?_openings_of_head (fun _ => rfl) _, by simp [Lexeme.isBreak], rfl, nofun⟩
        exact readOperand_value dialect isRun follows (bound + 1)
      · have mem : ("DATE ", Opening.literal "DATE " 1) ∈ openings := by simp [openings]
        exact readOperand_opened dialect [.quoted '\'' content] mem rfl (bound + 1)
      · have mem : ("TIMESTAMP ", Opening.literal "TIMESTAMP " 1) ∈ openings := by simp [openings]
        exact readOperand_opened dialect [.quoted '\'' content] mem rfl (bound + 1)
      · have mem : ("DATE(", Opening.literal "DATE(" 2) ∈ openings := by simp [openings]
        exact readOperand_opened dialect [.quoted '\'' content, .symbol ')'] mem rfl (bound + 1)
      · have mem : ("STRFTIME(", Opening.literal "STRFTIME(" 5) ∈ openings := by simp [openings]
        exact readOperand_opened dialect [.quoted '\'' "%Y-%m-%d %H:%M:%f", .symbol ',',
          .symbol ' ', .quoted '\'' content, .symbol ')'] mem rfl (bound + 1)

/-- A written value is read as its text. -/
theorem readOperand_literal {value : Value} {content : String}
    (written : dialect.literal value = .ok content) (follows : Follows rest) (bound : Nat) :
    CheckedSql.readOperand dialect (bound + 2) ((Token.literal value).pieces dialect ++ rest)
      = some (.literal content, rest) := by
  obtain ⟨read, pieces⟩ := Token.pieces_literal written
  rw [pieces.readOperand dialect follows bound, Dialect.spell_of_scan read pieces.known.2,
    String.ofList_toList]

end Values

end CheckedSql
