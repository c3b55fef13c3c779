/-!
# Double precision numbers

A floating point literal is kept as the 64 bits of its IEEE 754 double format,
so that it passes through the library unchanged and statements about it are
statements about natural numbers.  A finite number is `±m · 2^q`, where
`Binary64.significand` is `m` and `Binary64.exponent` is `q`.  The fraction takes
the lower 52 bits, so `0x10000000000000`, which is `2^52`, divides the fields.

`==` compares the numbers and not the bits.  A NaN differs from everything, also
from itself, and the two zeros are equal.
-/

namespace CheckedSql

/-- A number in IEEE 754 double format. -/
structure Binary64 where
  /-- The sign bit, eleven bits of exponent and 52 bits of fraction. -/
  bits : UInt64
  deriving DecidableEq, Repr, Inhabited

namespace Binary64

/-- Whether the sign bit is set. -/
def isNegative (x : Binary64) : Bool := decide (0x8000000000000000 ≤ x.bits.toNat)

/-- The eleven exponent bits. -/
def exponentField (x : Binary64) : Nat := x.bits.toNat / 0x10000000000000 % 0x800

/-- The 52 fraction bits. -/
def fraction (x : Binary64) : Nat := x.bits.toNat % 0x10000000000000

/-- Whether the bits stand for no number. -/
def isNaN (x : Binary64) : Bool := x.exponentField == 2047 && x.fraction != 0

/-- Whether the number is one of the two infinities. -/
def isInfinite (x : Binary64) : Bool := x.exponentField == 2047 && x.fraction == 0

/-- Whether the number is one of the two zeros. -/
def isZero (x : Binary64) : Bool := x.exponentField == 0 && x.fraction == 0

/-- Whether the number is neither infinite nor a NaN. -/
def isFinite (x : Binary64) : Bool := x.exponentField != 2047

/-- The integer `m` of a finite number `±m · 2^q`. -/
def significand (x : Binary64) : Nat :=
  if x.exponentField = 0 then x.fraction else 0x10000000000000 + x.fraction

/-- The integer `q` of a finite number `±m · 2^q`. -/
def exponent (x : Binary64) : Int :=
  if x.exponentField = 0 then -1074 else (x.exponentField : Int) - 1075

/-- Equality of numbers. -/
instance : BEq Binary64 := ⟨fun x y =>
  !x.isNaN && !y.isNaN && (x.bits == y.bits || (x.isZero && y.isZero))⟩

/-- A number equals itself unless it is a NaN. -/
theorem beq_self (x : Binary64) : (x == x) = !x.isNaN := by
  show (!x.isNaN && !x.isNaN && (x.bits == x.bits || (x.isZero && x.isZero))) = !x.isNaN
  simp

/-- The zero of a sign. -/
def zero (negative : Bool) : Binary64 := ⟨if negative then 0x8000000000000000 else 0⟩

/-- The infinity of a sign. -/
def infinity (negative : Bool) : Binary64 :=
  ⟨if negative then 0xfff0000000000000 else 0x7ff0000000000000⟩

/-- The NaN of a sign. -/
def nan (negative : Bool) : Binary64 :=
  ⟨if negative then 0xfff8000000000000 else 0x7ff8000000000000⟩

example : (zero true == zero false) = true := by decide

example : (nan false == nan false) = false := by decide

end Binary64

end CheckedSql
