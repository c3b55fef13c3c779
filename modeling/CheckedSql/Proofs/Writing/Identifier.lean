import CheckedSql.Proofs.Writing.Phrase
import CheckedSql.Syntax.Tokens

/-!
# Written identifiers

An identifier is written bare exactly if it is a name in ASCII that is no reserved word
in any case (`needsQuoting_eq_false_iff`).  `Dialect.readName?` reads a written identifier
up to the end of the name or up to the closing delimiter, and gives back what was written
(`readName?_quoteName`).  So neither two identifiers nor two columns are written alike.
-/

namespace CheckedSql

/-! ## Reserved words -/

/-- The reserved words are the texts that differ from a word of the table in case at most. -/
theorem isReservedWord_iff_exists {identifier : String} :
    isReservedWord identifier = true
      ↔ ∃ word ∈ reservedWords.toList, asciiLower identifier = asciiLower word := by
  have inCapitals : ∀ word ∈ reservedWords.toList, asciiUpper word = word := by decide +kernel
  rw [isReservedWord_iff]
  constructor
  · intro mem
    exact ⟨asciiUpper identifier, mem, asciiLower_eq_iff.2 (inCapitals _ mem).symm⟩
  · rintro ⟨word, mem, same⟩
    rwa [asciiLower_eq_iff.1 same, inCapitals word mem]

/-! ## Bare identifiers -/

/-- An identifier that every supported engine reads as a name without quotes. -/
structure IsBare (identifier : String) : Prop where
  nonempty : identifier ≠ ""
  /-- It consists of ASCII letters, digits and underscores. -/
  isName : ∀ c ∈ identifier.toList, c.isAlpha ∨ c.isDigit ∨ c = '_'
  noDigitFirst : ∀ first ∈ identifier.toList.head?, ¬ first.isDigit
  notReserved : ∀ word ∈ reservedWords.toList, asciiLower identifier ≠ asciiLower word

theorem isNamePart_iff {c : Char} :
    isNamePart c = true ↔ c.isAlpha ∨ c.isDigit ∨ c = '_' := by
  rw [isNamePart, Char.isAlphanum, Bool.or_eq_true, Bool.or_eq_true, beq_iff_eq, or_assoc]

/-- A name starts with any of its characters but a digit. -/
theorem isNameStart_iff {c : Char} : isNameStart c = true ↔ isNamePart c = true ∧ ¬ c.isDigit := by
  rw [isNamePart_iff, isNameStart, Bool.or_eq_true, beq_iff_eq]
  constructor
  · rintro (alpha | rfl)
    · exact ⟨.inl alpha, not_isDigit_of_isAlpha alpha⟩
    · exact ⟨.inr (.inr rfl), by decide⟩
  · rintro ⟨alpha | digit | underscore, notDigit⟩
    · exact .inl alpha
    · exact absurd digit notDigit
    · exact .inr underscore

/-- The identifiers that need no quotes are the bare ones. -/
theorem needsQuoting_eq_false_iff {identifier : String} :
    needsQuoting identifier = false ↔ IsBare identifier := by
  have unreserved : isReservedWord identifier = false
      ↔ ∀ word ∈ reservedWords.toList, asciiLower identifier ≠ asciiLower word := by
    rw [← Bool.not_eq_true, isReservedWord_iff_exists]
    push Not
    rfl
  rw [needsQuoting]
  cases chars : identifier.toList with
  | nil =>
    have empty : identifier = "" := String.toList_eq_nil_iff.1 chars
    exact ⟨nofun, fun bare => absurd empty bare.nonempty⟩
  | cons first rest =>
    simp only [Bool.or_eq_false_iff, Bool.not_eq_false', isNameStart_iff, List.all_eq_true]
    constructor
    · rintro ⟨⟨⟨firstIsPart, notDigit⟩, areParts⟩, notReserved⟩
      refine ⟨?_, ?_, ?_, unreserved.1 notReserved⟩
      · rintro rfl
        cases chars
      · intro c mem
        rw [chars] at mem
        rcases List.mem_cons.1 mem with rfl | mem
        · exact isNamePart_iff.1 firstIsPart
        · exact isNamePart_iff.1 (areParts c mem)
      · rw [chars]
        rintro _ ⟨⟩
        exact notDigit
    · intro bare
      have isPart (c : Char) (mem : c ∈ first :: rest) : isNamePart c = true :=
        isNamePart_iff.2 (bare.isName c (chars ▸ mem))
      refine ⟨⟨⟨isPart first (.head _), bare.noDigitFirst first ?_⟩, ?_⟩, ?_⟩
      · rw [chars]
        rfl
      · exact fun c mem => isPart c (.tail _ mem)
      · exact unreserved.2 bare.notReserved

namespace Dialect

variable (dialect : Dialect) {identifier other : String}

/-- A bare identifier is written as it is. -/
theorem quoteName_of_isBare (bare : IsBare identifier) :
    dialect.quoteName identifier = identifier := by
  rw [quoteName, needsQuoting_eq_false_iff.2 bare]
  rfl

/-- Any other identifier is written between delimiters, the inner ones twice. -/
theorem toList_quoteName (notBare : ¬ IsBare identifier) :
    (dialect.quoteName identifier).toList
      = quotedBy dialect.nameDelimiter identifier.toList := by
  rw [← needsQuoting_eq_false_iff, Bool.not_eq_false] at notBare
  rw [quoteName, if_pos notBare, String.toList_ofList]

theorem length_le_length_doubled (delimiter : Char) (text : List Char) :
    text.length ≤ (doubled delimiter text).length := by
  induction text with
  | nil => exact Nat.le_refl 0
  | cons c rest ih =>
    rw [doubled]
    split <;> simp only [List.length_cons] <;> omega

/-- An identifier is written as it is exactly if it is bare. -/
theorem quoteName_eq_self_iff : dialect.quoteName identifier = identifier ↔ IsBare identifier := by
  refine ⟨fun same => ?_, quoteName_of_isBare dialect⟩
  by_contra notBare
  -- Two delimiters make a quoted identifier longer.
  have quoted := congrArg List.length (toList_quoteName dialect notBare)
  have longer := length_le_length_doubled dialect.nameDelimiter identifier.toList
  rw [same, quotedBy, List.length_cons, List.length_append] at quoted
  omega

/-! ## Reading an identifier -/

/-- Reads an identifier, between delimiters or bare, and returns it and what follows. -/
def readName? (chars : List Char) : Option (List Char × List Char) :=
  if chars.head? = some dialect.nameDelimiter then readQuoted? dialect.nameDelimiter chars
  else some (chars.takeWhile isNamePart, chars.dropWhile isNamePart)

theorem isNamePart_nameDelimiter : isNamePart dialect.nameDelimiter = false := by
  cases dialect <;> decide

/-- A written identifier is read up to its end, in front of any character that is neither a
delimiter nor part of a name. -/
theorem readName?_quoteName (identifier : String) {after : List Char}
    (ends : ∀ c ∈ after.head?, c ≠ dialect.nameDelimiter ∧ isNamePart c = false) :
    dialect.readName? ((dialect.quoteName identifier).toList ++ after)
      = some (identifier.toList, after) := by
  by_cases bare : IsBare identifier
  · have areParts (c : Char) (mem : c ∈ identifier.toList) : isNamePart c = true :=
      isNamePart_iff.2 (bare.isName c mem)
    have notDelimited : (identifier.toList ++ after).head? ≠ some dialect.nameDelimiter := by
      cases chars : identifier.toList with
      | nil => exact absurd (String.toList_eq_nil_iff.1 chars) bare.nonempty
      | cons first rest =>
        rintro ⟨⟩
        have isPart := areParts dialect.nameDelimiter (by rw [chars]; exact .head _)
        rw [isNamePart_nameDelimiter] at isPart
        cases isPart
    rw [quoteName_of_isBare dialect bare, readName?, if_neg notDelimited,
      List.takeWhile_append_of_pos areParts, List.dropWhile_append_of_pos areParts]
    cases after with
    | nil => simp
    | cons c rest => simp [(ends c rfl).2]
  · rw [toList_quoteName dialect bare, readName?, if_pos (by simp [quotedBy])]
    refine readQuoted?_quotedBy _ _ _ fun rest starts => ?_
    exact (ends dialect.nameDelimiter (by rw [starts]; rfl)).1 rfl

/-- Two different identifiers are written differently. -/
theorem quoteName_inj : dialect.quoteName identifier = dialect.quoteName other
    ↔ identifier = other := by
  refine ⟨fun same => ?_, congrArg _⟩
  have nothing : ∀ c ∈ ([] : List Char).head?,
      c ≠ dialect.nameDelimiter ∧ isNamePart c = false := nofun
  have read := dialect.readName?_quoteName identifier nothing
  have readOther := dialect.readName?_quoteName other nothing
  rw [same, readOther, Option.some.injEq, Prod.mk.injEq, String.toList_inj] at read
  exact read.1.symm

end Dialect

/-! ## Columns -/

/-- A column is written as its qualifier and its name, with a point between them. -/
theorem Column.write_tokens (dialect : Dialect) (column : Column) :
    dialect.write column.tokens
      = .ok (dialect.quoteName column.qualifier ++ ("." ++ dialect.quoteName column.name)) := by
  show Except.ok (dialect.quoteName column.qualifier
    ++ ("." ++ (dialect.quoteName column.name ++ ""))) = _
  rw [String.append_empty]

/-- Two columns that are written alike have one qualifier and one name. -/
theorem Column.eq_of_write_tokens {dialect : Dialect} {column other : Column}
    (same : dialect.write column.tokens = dialect.write other.tokens) :
    column.qualifier = other.qualifier ∧ column.name = other.name := by
  rw [write_tokens, write_tokens, Except.ok.injEq, ← String.toList_inj] at same
  simp only [String.toList_append] at same
  have pointEnds (name : List Char) :
      ∀ c ∈ (".".toList ++ name).head?, c ≠ dialect.nameDelimiter ∧ isNamePart c = false := by
    rintro c ⟨⟩
    cases dialect <;> decide
  have read := dialect.readName?_quoteName column.qualifier
    (pointEnds (dialect.quoteName column.name).toList)
  have readOther := dialect.readName?_quoteName other.qualifier
    (pointEnds (dialect.quoteName other.name).toList)
  rw [same, readOther, Option.some.injEq, Prod.mk.injEq, String.toList_inj,
    List.append_cancel_left_eq, String.toList_inj, dialect.quoteName_inj] at read
  exact ⟨read.1.symm, read.2.symm⟩

/-- Identifiers are quoted exactly where it is needed, a quoted identifier ends at its closing
delimiter and reads back, and neither two identifiers nor two columns are written alike. -/
theorem Dialect.quoteName_faithful (dialect : Dialect) (identifier : String) :
    (dialect.quoteName identifier = identifier ↔ IsBare identifier)
      ∧ (¬ IsBare identifier → (dialect.quoteName identifier).toList
          = quotedBy dialect.nameDelimiter identifier.toList)
      ∧ (∀ word ∈ reservedWords.toList, asciiLower identifier = asciiLower word →
          isReservedWord identifier = true)
      ∧ (∀ after, after.head? ≠ some dialect.nameDelimiter →
          readQuoted? dialect.nameDelimiter
            (quotedBy dialect.nameDelimiter identifier.toList ++ after)
          = some (identifier.toList, after))
      ∧ (∀ other, dialect.quoteName identifier = dialect.quoteName other → identifier = other)
      ∧ ∀ column other : Column, (dialect.write column.tokens).isOk
          ∧ (dialect.write column.tokens = dialect.write other.tokens →
            column.qualifier = other.qualifier ∧ column.name = other.name) := by
  refine ⟨dialect.quoteName_eq_self_iff, dialect.toList_quoteName, ?_, ?_, ?_, ?_⟩
  · exact fun word mem same => isReservedWord_iff_exists.2 ⟨word, mem, same⟩
  · intro after notDelimiter
    refine readQuoted?_quotedBy _ _ _ fun rest starts => notDelimiter ?_
    rw [starts]
    rfl
  · exact fun other => dialect.quoteName_inj.1
  · intro column other
    refine ⟨?_, Column.eq_of_write_tokens⟩
    rw [Column.write_tokens]
    rfl

end CheckedSql
