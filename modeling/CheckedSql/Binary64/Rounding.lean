import CheckedSql.Binary64.Basic

/-!
# Rounding to a binary format

A ratio of natural numbers is rounded to the nearest number `m · 2^q` of a
binary format, and a tie goes to the even `m`.  A decimal is such a ratio, so
this is also how decimals are read.
-/

namespace CheckedSql

/-- A number `significand · 2^exponent`. -/
structure Dyadic where
  significand : Nat
  exponent : Int
  deriving DecidableEq, Repr

/-- The number as a quotient of two natural numbers. -/
def Dyadic.ratio (x : Dyadic) : Nat × Nat :=
  (x.significand * Nat.pow 2 x.exponent.toNat, Nat.pow 2 (-x.exponent).toNat)

/-- The quotient rounded to the nearest natural number, a half to the even one. -/
def divRoundEven (numerator denominator : Nat) : Nat :=
  let quotient := numerator / denominator
  let rest := 2 * (numerator % denominator)
  if rest < denominator then quotient
  else if denominator < rest then quotient + 1
  else quotient + quotient % 2

/-- A binary format: how many bits a significand has, and the range of exponents. -/
structure BinaryFormat where
  precision : Nat
  minExponent : Int
  maxExponent : Int

namespace BinaryFormat

/-- The double format. -/
def double : BinaryFormat := ⟨53, -1074, 971⟩

/-- The single format. -/
def single : BinaryFormat := ⟨24, -149, 104⟩

/-- The number of the format nearest to a ratio, or `none` if the ratio is beyond all of them. -/
def round? (format : BinaryFormat) (numerator denominator : Nat) : Option Dyadic :=
  let scaled (exponent : Int) : Nat × Nat :=
    (numerator * Nat.pow 2 (-exponent).toNat, denominator * Nat.pow 2 exponent.toNat)
  let estimate : Int := (numerator.log2 : Int) - denominator.log2 - format.precision
  let (top, bottom) := scaled estimate
  let exact := if top < bottom * Nat.pow 2 format.precision then estimate else estimate + 1
  let exponent := max exact format.minExponent
  let (top, bottom) := scaled exponent
  let significand := divRoundEven top bottom
  let rounded : Dyadic :=
    if significand = Nat.pow 2 format.precision then ⟨Nat.pow 2 (format.precision - 1), exponent + 1⟩
    else ⟨significand, exponent⟩
  if format.maxExponent < rounded.exponent then none else some rounded

end BinaryFormat

namespace Binary64

/-- The double of a number of the double format. -/
def ofDyadic (negative : Bool) (x : Dyadic) : Binary64 :=
  let magnitude : Nat :=
    if x.significand < 0x10000000000000 then x.significand
    else (x.exponent + 1075).toNat * 0x10000000000000 + (x.significand - 0x10000000000000)
  ⟨UInt64.ofNat ((if negative then 0x8000000000000000 else 0) + magnitude)⟩

/-- The double nearest to a ratio, infinite if the ratio is beyond all doubles. -/
def ofRatio (negative : Bool) (numerator denominator : Nat) : Binary64 :=
  match BinaryFormat.double.round? numerator denominator with
  | some x => ofDyadic negative x
  | none => infinity negative

/-- The single nearest to a ratio, as a double. -/
def ofRatioViaSingle (negative : Bool) (numerator denominator : Nat) : Binary64 :=
  match BinaryFormat.single.round? numerator denominator with
  | some x => let (top, bottom) := x.ratio; ofRatio negative top bottom
  | none => infinity negative

/-- A finite number as a dyadic one, its sign left out. -/
def magnitude (x : Binary64) : Dyadic := ⟨x.significand, x.exponent⟩

end Binary64

/-! ## Decimals -/

/-- The number `±digits · 10^exponent`. -/
structure Decimal where
  negative : Bool
  digits : Nat
  exponent : Int
  deriving DecidableEq, Repr

namespace Decimal

/-- The number as a quotient of two natural numbers, its sign left out. -/
def ratio (x : Decimal) : Nat × Nat :=
  (x.digits * Nat.pow 10 x.exponent.toNat, Nat.pow 10 (-x.exponent).toNat)

/-- Reads a decimal with a rounding of ratios.  A decimal whose leading digit stands more than 400
places from the point is infinite or zero at once, whatever the format. -/
def roundedBy (rounding : Bool → Nat → Nat → Binary64) (x : Decimal) : Binary64 :=
  let places : Int := (Nat.toDigits 10 x.digits).length + x.exponent
  if x.digits = 0 ∨ places < -400 then .zero x.negative
  else if 400 < places then .infinity x.negative
  else rounding x.negative x.ratio.1 x.ratio.2

/-- The nearest double. -/
def toBinary64 (x : Decimal) : Binary64 := x.roundedBy Binary64.ofRatio

/-- The nearest single, as a double. -/
def toBinary64ViaSingle (x : Decimal) : Binary64 := x.roundedBy Binary64.ofRatioViaSingle

/-- Splits digits off the front of a text and gives their value with that of `start` before them. -/
def takeDigits (start : Nat) : List Char → Nat × List Char
  | [] => (start, [])
  | c :: rest =>
      if c.isDigit then takeDigits (10 * start + (c.toNat - '0'.toNat)) rest else (start, c :: rest)

/-- An exponent part: `e` or `E`, an optional sign, at least one digit, and nothing after it. -/
def exponentPart? : List Char → Option Int
  | [] => some 0
  | mark :: rest =>
      if mark = 'e' ∨ mark = 'E' then
        let (negative, rest) := match rest with
          | '-' :: rest => (true, rest)
          | '+' :: rest => (false, rest)
          | rest => (false, rest)
        match rest, takeDigits 0 rest with
        | c :: _, (value, []) =>
            if c.isDigit then some (if negative then -(value : Int) else value) else none
        | _, _ => none
      else none

/-- Digits with an optional point and an optional exponent.  A digit on one side of the point is
enough. -/
def unsigned? (negative : Bool) (text : List Char) : Option Decimal :=
  let (whole, afterWhole) := takeDigits 0 text
  match afterWhole with
  | '.' :: afterPoint =>
      let (digits, rest) := takeDigits whole afterPoint
      let places := afterPoint.length - rest.length
      if text.length = rest.length + 1 then none
      else (exponentPart? rest).map fun exponent => ⟨negative, digits, exponent - places⟩
  | rest =>
      if text.length = rest.length then none
      else (exponentPart? rest).map fun exponent => ⟨negative, whole, exponent⟩

end Decimal

/-! ## Reading numbers -/

/-- Splits off a sign; `true` stands for a minus. -/
def takeSign : List Char → Bool × List Char
  | '-' :: rest => (true, rest)
  | '+' :: rest => (false, rest)
  | text => (false, text)

/-- Reads a number with the given reading of decimals.  `inf`, `infinity` and `nan` are accepted in
any case. -/
def readNumber? (ofDecimal : Decimal → Binary64) (text : String) : Option Binary64 :=
  let (negative, rest) := takeSign text.toList
  let lower := rest.map Char.toLower
  if lower = "inf".toList ∨ lower = "infinity".toList then some (.infinity negative)
  else if lower = "nan".toList then some (.nan negative)
  else (Decimal.unsigned? negative rest).map ofDecimal

/-- Reads a double. -/
def Binary64.ofText? : String → Option Binary64 := readNumber? Decimal.toBinary64

/-- Reads a single and widens it. -/
def Binary64.ofSingleText? : String → Option Binary64 := readNumber? Decimal.toBinary64ViaSingle

example : Binary64.ofText? "0.1" = some ⟨0x3fb999999999999a⟩ := by decide +kernel

example : Binary64.ofText? "5e-324" = some ⟨1⟩ := by decide +kernel

example : Binary64.ofText? "-1.7976931348623157e308" = some ⟨0xffefffffffffffff⟩ := by
  decide +kernel

example : Binary64.ofSingleText? "3.4028235e38" = some ⟨0x47efffffe0000000⟩ := by decide +kernel

end CheckedSql
