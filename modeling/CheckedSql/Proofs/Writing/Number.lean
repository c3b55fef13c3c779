import CheckedSql.Dialect.Literal
import CheckedSql.Proofs.Writing.Reading

/-!
# Shapes of numbers

A number is written as digits with a point or with an exponent.  There may be a sign in
front of it and one in front of the exponent, and a digit follows each sign, so the signs
of a number never make a comment.
-/

namespace CheckedSql

/-- Whether a character may stand in a number. -/
def isNumeric (c : Char) : Bool := c.isDigit || c == '-' || c == '.' || c == 'e'

/-- A piece of a text whose characters may stand in numbers. -/
def Numeric (piece : List Char) : Prop := ∀ c ∈ piece, isNumeric c = true

namespace Numeric

instance (piece : List Char) : Decidable (Numeric piece) :=
  decidable_of_iff (piece.all isNumeric = true) List.all_eq_true

@[simp] theorem nil : Numeric [] := by
  simp [Numeric]

@[simp] theorem cons_iff {c : Char} {piece : List Char} :
    Numeric (c :: piece) ↔ isNumeric c = true ∧ Numeric piece := List.forall_mem_cons

@[simp] theorem append_iff {first second : List Char} :
    Numeric (first ++ second) ↔ Numeric first ∧ Numeric second := List.forall_mem_append

theorem harmless {piece : List Char} (numeric : Numeric piece) : Harmless piece :=
  fun c mem => isHarmless_of rfl (numeric c mem)

end Numeric

/-! ## Numbers -/

/-- Whether a character may stand in a number apart from its signs. -/
def isUnsigned (c : Char) : Bool := c.isDigit || c == '.' || c == 'e'

/-- A text without signs that starts with a digit. -/
def UnsignedText (text : List Char) : Prop :=
  (∃ c ∈ text.head?, c.isDigit = true) ∧ ∀ c ∈ text, isUnsigned c = true

/-- A number without a sign in front of it. -/
inductive PositiveText : List Char → Prop where
  | unsigned {text : List Char} : UnsignedText text → PositiveText text
  /-- A sign in front of the exponent. -/
  | exponent {front digits : List Char} : UnsignedText front → UnsignedText digits →
      PositiveText (front ++ '-' :: digits)

/-- A number. -/
inductive NumberText : List Char → Prop where
  | positive {text : List Char} : PositiveText text → NumberText text
  | negative {text : List Char} : PositiveText text → NumberText ('-' :: text)

namespace UnsignedText

theorem cons {c : Char} {text : List Char} (isDigit : c.isDigit = true)
    (unsigned : ∀ other ∈ text, isUnsigned other = true) : UnsignedText (c :: text) :=
  ⟨⟨c, rfl, isDigit⟩, List.forall_mem_cons.2 ⟨by simp [isUnsigned, isDigit], unsigned⟩⟩

theorem append {text behind : List Char} (unsignedText : UnsignedText text)
    (unsigned : ∀ c ∈ behind, isUnsigned c = true) : UnsignedText (text ++ behind) := by
  obtain ⟨⟨c, mem, isDigit⟩, each⟩ := unsignedText
  refine ⟨⟨c, ?_, isDigit⟩, List.forall_mem_append.2 ⟨each, unsigned⟩⟩
  rw [List.head?_append, Option.mem_def.1 mem]
  rfl

theorem toDigits (number : Nat) : UnsignedText (Nat.toDigits 10 number) := by
  have digits : ∀ c ∈ Nat.toDigits 10 number, c.isDigit = true := fun c mem =>
    Nat.isDigit_of_mem_toDigits (by decide) (by decide) mem
  cases chars : Nat.toDigits 10 number with
  | nil => exact absurd chars Nat.toDigits_ne_nil
  | cons c rest =>
      rw [chars, List.forall_mem_cons] at digits
      exact .cons digits.1 fun other mem => by simp [isUnsigned, digits.2 other mem]

theorem numeric {text : List Char} (unsigned : UnsignedText text) : Numeric text := by
  intro c mem
  have isUnsigned := unsigned.2 c mem
  simp only [CheckedSql.isUnsigned, isNumeric, Bool.or_eq_true] at isUnsigned ⊢
  exact isUnsigned.imp_left (·.imp_left .inl)

end UnsignedText

theorem PositiveText.numeric {text : List Char} (positive : PositiveText text) :
    Numeric text := by
  cases positive with
  | unsigned unsigned => exact unsigned.numeric
  | exponent front digits =>
      exact Numeric.append_iff.2 ⟨front.numeric, Numeric.cons_iff.2 ⟨rfl, digits.numeric⟩⟩

theorem NumberText.numeric {text : List Char} (number : NumberText text) : Numeric text := by
  cases number with
  | positive positive => exact positive.numeric
  | negative positive => exact Numeric.cons_iff.2 ⟨rfl, positive.numeric⟩

/-- An integer is digits, with a sign in front of them if it is negative. -/
theorem unsignedText_intText (number : Int) :
    UnsignedText (toString number).toList
      ∨ ∃ digits, (toString number).toList = '-' :: digits ∧ UnsignedText digits := by
  rw [Int.toString_eq_repr, Int.repr_eq_if]
  split
  · rw [Nat.toList_repr]
    exact .inl (.toDigits _)
  · rw [String.toList_append, Nat.toList_repr]
    exact .inr ⟨_, rfl, .toDigits _⟩

theorem numberText_intText (number : Int) : NumberText (toString number).toList := by
  rcases unsignedText_intText number with unsigned | ⟨digits, text, unsigned⟩
  · exact .positive (.unsigned unsigned)
  · rw [text]
    exact .negative (.unsigned unsigned)

theorem numberText_natText (number : Nat) : NumberText (toString number).toList := by
  rw [Nat.toString_eq_repr, Nat.toList_repr]
  exact .positive (.unsigned (.toDigits _))

/-! ## Floating point numbers -/

theorem isDigit_ofCount (count : Nat) (k : Int) :
    (Binary64.Digits.ofCount count k).leading.isDigit = true
      ∧ ∀ c ∈ (Binary64.Digits.ofCount count k).others, c.isDigit = true := by
  have each : ∀ c ∈ Nat.toDigits 10 count, c.isDigit = true := fun c mem =>
    Nat.isDigit_of_mem_toDigits (by decide) (by decide) mem
  unfold Binary64.Digits.ofCount
  split
  · exact ⟨rfl, by simp⟩
  · next leading others found =>
      rw [found, List.forall_mem_cons] at each
      refine ⟨each.1, fun c mem => each.2 c ?_⟩
      have kept := (List.dropWhile_sublist _).subset (List.mem_reverse.1 mem)
      exact List.mem_reverse.1 kept

theorem isDigit_shortest (x : Binary64) :
    x.shortest.leading.isDigit = true ∧ ∀ c ∈ x.shortest.others, c.isDigit = true := by
  unfold Binary64.shortest
  split
  · exact ⟨rfl, by simp⟩
  · exact isDigit_ofCount _ _

theorem isUnsigned_shortest (x : Binary64) :
    ∀ c ∈ x.shortest.others, isUnsigned c = true := fun c mem => by
  simp [isUnsigned, (isDigit_shortest x).2 c mem]

theorem isUnsigned_replicate (count : Nat) :
    ∀ c ∈ List.replicate count '0', isUnsigned c = true := by
  intro c mem
  rw [List.eq_of_mem_replicate mem]
  rfl

theorem unsignedText_positional (x : Binary64) :
    UnsignedText (floatLayout.positional x.shortest) := by
  have leading := (isDigit_shortest x).1
  have others := isUnsigned_shortest x
  have leadingUnsigned : isUnsigned x.shortest.leading = true := by simp [isUnsigned, leading]
  unfold Binary64.Layout.positional
  split
  · refine .cons rfl (List.forall_mem_append.2 ⟨?_, ?_⟩)
    · exact List.forall_mem_cons.2 ⟨rfl, isUnsigned_replicate _⟩
    · exact List.forall_mem_cons.2 ⟨leadingUnsigned, others⟩
  · have whole : UnsignedText (x.shortest.leading ::
        x.shortest.others.take x.shortest.exponent.toNat
          ++ List.replicate (x.shortest.exponent.toNat - x.shortest.others.length) '0') :=
      UnsignedText.append (.cons leading fun c mem => others c (List.mem_of_mem_take mem))
        (isUnsigned_replicate _)
    dsimp only
    split
    · exact whole.append (List.forall_mem_cons.2 ⟨rfl, List.forall_mem_singleton.2 rfl⟩)
    · refine whole.append (List.forall_mem_cons.2 ⟨rfl, fun c mem => others c ?_⟩)
      exact List.mem_of_mem_drop mem

theorem positiveText_scientific (x : Binary64) :
    PositiveText (floatLayout.scientific x.shortest) := by
  have leading := (isDigit_shortest x).1
  have others := isUnsigned_shortest x
  have mark : ∀ c ∈ [floatLayout.exponentMark], isUnsigned c = true :=
    List.forall_mem_singleton.2 rfl
  have ending (mantissa : List Char) (unsigned : UnsignedText mantissa) :
      PositiveText (mantissa ++ [floatLayout.exponentMark]
        ++ (toString x.shortest.exponent).toList) := by
    have marked := unsigned.append mark
    rcases unsignedText_intText x.shortest.exponent with unsigned | ⟨digits, text, unsigned⟩
    · exact .unsigned (marked.append unsigned.2)
    · rw [text]
      exact .exponent marked unsigned
  unfold Binary64.Layout.scientific
  dsimp only
  rw [List.append_cons]
  refine ending _ ?_
  split
  · exact .cons leading (by simp)
  · exact .cons leading (List.forall_mem_cons.2 ⟨rfl, others⟩)

theorem numberText_floatText (x : Binary64) : NumberText (floatLayout.write x) := by
  have magnitude : PositiveText (if floatLayout.firstPositional ≤ x.shortest.exponent
        ∧ x.shortest.exponent ≤ floatLayout.lastPositional then
      floatLayout.positional x.shortest else floatLayout.scientific x.shortest) := by
    split
    · exact .unsigned (unsignedText_positional x)
    · exact positiveText_scientific x
  unfold Binary64.Layout.write
  cases x.isNegative with
  | false => exact .positive magnitude
  | true => exact .negative magnitude

end CheckedSql
