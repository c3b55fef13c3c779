import CheckedSql.Proofs.Writing.Number

/-!
# Names and literals hold no placeholders

Names and text literals may hold any character, so they are quoted, and a reader
skips what is quoted.  What is written without quotes is made of letters, digits
and signs.
-/

namespace CheckedSql

/-! ## Digits -/

theorem numeric_toDigits (number : Nat) : Numeric (Nat.toDigits 10 number) := by
  intro c mem
  have isDigit : c.isDigit = true := Nat.isDigit_of_mem_toDigits (by decide) (by decide) mem
  simp [isNumeric, isDigit]

theorem numeric_replicate {c : Char} (numeric : isNumeric c = true) (count : Nat) :
    Numeric (List.replicate count c) := by
  intro other mem
  rwa [List.eq_of_mem_replicate mem]

theorem numeric_paddedDigits (width number : Nat) : Numeric (paddedDigits width number) := by
  rw [paddedDigits, List.leftpad, Numeric.append_iff]
  exact ⟨numeric_replicate rfl _, numeric_toDigits number⟩

/-! ## Dates -/

theorem harmless_yearText (year : Int) : Harmless (yearText year) := by
  rw [yearText]
  split
  · exact Harmless.cons_iff.2 ⟨rfl, (numeric_paddedDigits _ _).harmless⟩
  · split
    · exact Harmless.cons_iff.2 ⟨rfl, (numeric_paddedDigits _ _).harmless⟩
    · exact (numeric_paddedDigits _ _).harmless

theorem harmless_dateText (date : Date) : Harmless date.text := by
  have dash : isHarmless '-' = true := rfl
  simp [Date.text, harmless_yearText, (numeric_paddedDigits _ _).harmless, dash]

theorem harmless_fractionText (nano : Nat) : Harmless (fractionText nano) := by
  have point : isHarmless '.' = true := rfl
  unfold fractionText
  split
  · exact .nil
  · split
    · simp [point, (numeric_paddedDigits _ _).harmless]
    · split <;> simp [point, (numeric_paddedDigits _ _).harmless]

theorem harmless_timeText (time : TimeOfDay) : Harmless time.text := by
  have colon : isHarmless ':' = true := rfl
  simp [TimeOfDay.text, (numeric_paddedDigits _ _).harmless, harmless_fractionText, colon]

theorem harmless_timestampText {separator : Char} (harmless : isHarmless separator = true)
    (timestamp : Timestamp) : Harmless (timestamp.text separator) := by
  simp [Timestamp.text, harmless_dateText, harmless_timeText, harmless]

/-! ## Byte strings -/

theorem harmless_hexLower (bytes : List UInt8) : Harmless (hexLower bytes) := by
  have digit : ∀ n : Fin 16, isHarmless (Nat.digitChar n.val) = true := by decide
  intro c mem
  obtain ⟨byte, -, digits⟩ := List.mem_flatMap.1 mem
  have bound := byte.toNat_lt
  simp only [byteHex, List.mem_cons, List.not_mem_nil, or_false] at digits
  rcases digits with rfl | rfl
  · exact digit ⟨byte.toNat / 16, by omega⟩
  · exact digit ⟨byte.toNat % 16, by omega⟩

theorem harmless_hexUpper (bytes : List UInt8) : Harmless (hexUpper bytes) := by
  have digit : ∀ n : Fin 16, isHarmless (Nat.digitChar n.val).toUpper = true := by decide
  intro c mem
  obtain ⟨lower, lowerMem, rfl⟩ := List.mem_map.1 mem
  obtain ⟨byte, -, digits⟩ := List.mem_flatMap.1 lowerMem
  have bound := byte.toNat_lt
  simp only [byteHex, List.mem_cons, List.not_mem_nil, or_false] at digits
  rcases digits with rfl | rfl
  · exact digit ⟨byte.toNat / 16, by omega⟩
  · exact digit ⟨byte.toNat % 16, by omega⟩

/-! ## Names -/

/-- A harmless text between delimiters is written as it is. -/
theorem quotedBy_of_harmless {delimiter : Char} (isDelimiter : isDelimiter delimiter = true)
    {text : List Char} (harmless : Harmless text) :
    quotedBy delimiter text = delimiter :: (text ++ [delimiter]) := by
  have same : doubled delimiter text = text := by
    induction text with
    | nil => rfl
    | cons c text ih =>
        obtain ⟨first, others⟩ := Harmless.cons_iff.1 harmless
        have differs : c ≠ delimiter := by
          rintro rfl
          simp [isHarmless, isDelimiter] at first
        rw [doubled, if_neg differs, ih others]
  rw [quotedBy, same]

namespace Dialect

theorem isDelimiter_nameDelimiter (dialect : Dialect) :
    isDelimiter dialect.nameDelimiter = true := by
  cases dialect <;> rfl

/-- An identifier that is written bare is harmless. -/
theorem harmless_of_bare {identifier : String} (bare : needsQuoting identifier = false) :
    Harmless identifier.toList := by
  unfold needsQuoting at bare
  split at bare
  · cases bare
  · next first rest chars =>
      simp only [Bool.or_eq_false_iff, Bool.not_eq_false'] at bare
      rw [chars, Harmless.cons_iff]
      refine ⟨isHarmless_of rfl bare.1.1, fun c mem => ?_⟩
      exact isHarmless_of rfl (List.all_eq_true.1 bare.1.2 c mem)

/-- A written name holds no placeholder. -/
theorem skipped_quoteName (dialect : Dialect) (identifier : String) :
    Skipped (dialect.quoteName identifier).toList := by
  unfold quoteName
  split
  · rw [String.toList_ofList]
    exact .quotedBy dialect.isDelimiter_nameDelimiter _
  · next bare => exact .of_harmless (harmless_of_bare (Bool.not_eq_true _ ▸ bare))

end Dialect

/-! ## Literals -/

/-- What may stand in front of and behind the quoted part of a literal. -/
def literalFrames : List (String × String) :=
  [("", ""), ("x", ""), ("DATE ", ""), ("TIMESTAMP ", ""), ("DATE(", ")"),
    ("STRFTIME('%Y-%m-%d %H:%M:%f', ", ")")]

/-- The forms of written values: a word, a number, or a quoted text in a frame. -/
inductive LiteralText : List Char → Prop where
  | word {text : String} : text ∈ ["NULL", "true", "false"] → LiteralText text.toList
  | number {text : List Char} : NumberText text → LiteralText text
  | quoted {front back : String} (content : List Char) : (front, back) ∈ literalFrames →
      LiteralText (front.toList ++ (quotedBy '\'' content ++ back.toList))

namespace LiteralText

/-- A harmless text between single quotes. -/
theorem of_harmless {front back text : String} (content : List Char)
    (harmless : Harmless content) (mem : (front, back) ∈ literalFrames)
    (same : text.toList = front.toList ++ '\'' :: (content ++ '\'' :: back.toList)) :
    LiteralText text.toList := by
  have isQuote : isDelimiter '\'' = true := rfl
  have form := quoted content mem
  rw [quotedBy_of_harmless isQuote harmless] at form
  rw [same]
  simpa using form

theorem floatLiteral {dialect : Dialect} {value : Binary64} {text : String}
    (written : dialect.floatLiteral value = .ok text) : LiteralText text.toList := by
  have named (name : String) (harmless : Harmless name.toList) :
      LiteralText ("'" ++ name ++ "'").toList :=
    of_harmless name.toList harmless (.head _) (by simp)
  unfold Dialect.floatLiteral at written
  split at written
  · cases dialect with
    | postgres | sqlite =>
        obtain rfl := Except.ok.inj written
        exact named "NaN" (by decide)
    | generic | mysql => cases written
  · split at written
    · cases isNegative : value.isNegative <;> rw [isNegative] at written <;> cases dialect
      all_goals cases written
      · exact named "Infinity" (by decide)
      · exact named "Inf" (by decide)
      · exact named "-Infinity" (by decide)
      · exact named "-Inf" (by decide)
    · obtain rfl := Except.ok.inj written
      rw [String.toList_ofList]
      exact .number (numberText_floatText value)

theorem blobLiteral (dialect : Dialect) (bytes : List UInt8) :
    LiteralText (dialect.blobLiteral bytes).toList := by
  cases dialect with
  | postgres =>
      have content : Harmless ('\\' :: 'x' :: hexLower bytes) :=
        Harmless.append_iff.2 ⟨(by decide : Harmless ['\\', 'x']), harmless_hexLower bytes⟩
      exact of_harmless _ content (.head _) (by simp [Dialect.blobLiteral])
  | generic | mysql | sqlite =>
      exact of_harmless _ (harmless_hexUpper bytes) (.tail _ (.head _))
        (by simp [Dialect.blobLiteral])

theorem dateLiteral (dialect : Dialect) (date : Date) :
    LiteralText (dialect.dateLiteral date).toList := by
  have content := harmless_dateText date
  cases dialect with
  | sqlite =>
      have mem : ("DATE(", ")") ∈ literalFrames := by simp [literalFrames]
      exact of_harmless _ content mem (by simp [Dialect.dateLiteral])
  | generic | mysql | postgres =>
      have mem : ("DATE ", "") ∈ literalFrames := by simp [literalFrames]
      exact of_harmless _ content mem (by simp [Dialect.dateLiteral])

theorem timestampLiteral (dialect : Dialect) (timestamp : Timestamp) :
    LiteralText (dialect.timestampLiteral timestamp).toList := by
  cases dialect with
  | sqlite =>
      have content := harmless_timestampText (rfl : isHarmless ' ' = true) timestamp
      have mem : ("STRFTIME('%Y-%m-%d %H:%M:%f', ", ")") ∈ literalFrames := by
        simp [literalFrames]
      show LiteralText ("STRFTIME('%Y-%m-%d %H:%M:%f', '" ++ String.ofList (timestamp.text ' ')
        ++ "')").toList
      exact of_harmless _ content mem (by simp)
  | generic | mysql | postgres =>
      have content := harmless_timestampText (rfl : isHarmless 'T' = true) timestamp
      have mem : ("TIMESTAMP ", "") ∈ literalFrames := by simp [literalFrames]
      show LiteralText ("TIMESTAMP '" ++ String.ofList (timestamp.text 'T') ++ "'").toList
      exact of_harmless _ content mem (by simp)

/-- Every written value has one of these forms. -/
theorem literal {dialect : Dialect} {value : Value} {text : String}
    (written : dialect.literal value = .ok text) : LiteralText text.toList := by
  cases value with
  | null =>
      obtain rfl := Except.ok.inj written
      exact .word (.head _)
  | bool value =>
      obtain rfl := Except.ok.inj written
      cases dialect with
      | postgres =>
          cases value with
          | false => exact .word (.tail _ (.tail _ (.head _)))
          | true => exact .word (.tail _ (.head _))
      | generic | mysql | sqlite =>
          have digit (c : Char) (isDigit : c.isDigit = true) : LiteralText [c] :=
            .number (.positive (.unsigned (.cons isDigit (by simp))))
          cases value with
          | false => exact digit '0' rfl
          | true => exact digit '1' rfl
  | int value =>
      obtain rfl := Except.ok.inj written
      exact .number (numberText_intText _)
  | uint value =>
      simp only [Dialect.literal, Dialect.unsignedLiteral] at written
      split at written
      · cases written
      · obtain rfl := Except.ok.inj written
        exact .number (numberText_natText _)
  | float value => exact floatLiteral written
  | text value =>
      obtain rfl := Except.ok.inj written
      have form := quoted value.toList (.head _)
      simpa [Dialect.textLiteral] using form
  | blob bytes =>
      obtain rfl := Except.ok.inj written
      exact blobLiteral dialect bytes
  | date value =>
      obtain rfl := Except.ok.inj written
      exact dateLiteral dialect value
  | time value =>
      obtain rfl := Except.ok.inj written
      exact of_harmless _ (harmless_timeText value) (.head _) (by simp [Dialect.timeLiteral])
  | timestamp value =>
      obtain rfl := Except.ok.inj written
      exact timestampLiteral dialect value

/-- A written value holds no placeholder. -/
theorem skipped {text : List Char} (form : LiteralText text) : Skipped text := by
  cases form with
  | word mem =>
      refine .of_harmless ?_
      simp only [List.mem_cons, List.not_mem_nil, or_false] at mem
      rcases mem with rfl | rfl | rfl <;> decide
  | number number => exact .of_harmless number.numeric.harmless
  | @quoted front back content mem =>
      have harmlessFront (harmless : Harmless front.toList) (harmlessBack : Harmless back.toList)
          (apart : StartsApart back.toList) :
          Skipped (front.toList ++ (quotedBy '\'' content ++ back.toList)) :=
        .harmless_append harmless
          (.append (.quotedBy rfl content) apart (.of_harmless harmlessBack))
      simp only [literalFrames, List.mem_cons, Prod.mk.injEq, List.not_mem_nil, or_false] at mem
      rcases mem with ⟨rfl, rfl⟩ | ⟨rfl, rfl⟩ | ⟨rfl, rfl⟩ | ⟨rfl, rfl⟩ | ⟨rfl, rfl⟩ | ⟨rfl, rfl⟩
      · exact harmlessFront (by decide) (by decide) (by decide)
      · exact harmlessFront (by decide) (by decide) (by decide)
      · exact harmlessFront (by decide) (by decide) (by decide)
      · exact harmlessFront (by decide) (by decide) (by decide)
      · exact harmlessFront (by decide) (by decide) (by decide)
      · -- the front has a quoted text of its own, the format
        have isQuote : isDelimiter '\'' = true := rfl
        have format : Harmless "%Y-%m-%d %H:%M:%f".toList := by decide +kernel
        have front : "STRFTIME('%Y-%m-%d %H:%M:%f', ".toList
            = "STRFTIME(".toList ++ (quotedBy '\'' "%Y-%m-%d %H:%M:%f".toList ++ ", ".toList) := by
          rw [quotedBy_of_harmless isQuote format]
          simp
        rw [front, List.append_assoc, List.append_assoc]
        have argument : Skipped (", ".toList ++ (quotedBy '\'' content ++ ")".toList)) :=
          .harmless_append (by decide)
            (.append (.quotedBy rfl content) (by decide) (.of_harmless (by decide)))
        exact .harmless_append (by decide)
          (.append (.quotedBy rfl _) (StartsApart.of_cons _ rfl rfl) argument)

end LiteralText

/-- A written value holds no placeholder. -/
theorem Dialect.skipped_literal {dialect : Dialect} {value : Value} {text : String}
    (written : dialect.literal value = .ok text) : Skipped text.toList :=
  (LiteralText.literal written).skipped

end CheckedSql
