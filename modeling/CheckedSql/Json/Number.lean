import CheckedSql.Binary64.Rounding
import CheckedSql.Binary64.Shortest
import CheckedSql.Json.Basic
import CheckedSql.Reader

/-!
# JSON numbers

A number without a point and without an exponent is an integer if it fits 64
bits, with or without a sign.  Every other number is a double.

The double of a long number is not always the nearest one.  Digits are taken
while they fit 64 bits without a sign, the rest only counts as places, and the
taken digits are rounded to a double before that double is scaled by a power of
ten.  Below `10^-308` there are two such steps.  A number beyond all doubles is
refused.
-/

namespace CheckedSql

/-! ## Scaling -/

namespace Binary64

/-- The rounded product of two finite numbers, signs left out. -/
def product (x y : Binary64) : Binary64 :=
  let (a, b) := x.magnitude.ratio
  let (c, d) := y.magnitude.ratio
  ofRatio false (a * c) (b * d)

/-- The rounded quotient of two finite numbers, signs left out. -/
def quotient (x y : Binary64) : Binary64 :=
  let (a, b) := x.magnitude.ratio
  let (c, d) := y.magnitude.ratio
  ofRatio false (a * d) (b * c)

/-- The double nearest to a power of ten. -/
def powerOfTen (places : Nat) : Binary64 := ofRatio false (Nat.pow 10 places) 1

/-- The number with its sign set. -/
def withSign (negative : Bool) (x : Binary64) : Binary64 :=
  if negative then ⟨x.bits ||| 0x8000000000000000⟩ else x

/-- The most places that one scaling step covers. -/
def scalingStep : Nat := 308

/-- Digits scaled up, unless the result is beyond all doubles. -/
def scaledUp? (digits places : Nat) : Option Binary64 :=
  if digits = 0 then some (zero false)
  else if scalingStep < places then none
  else
    let result := product (ofRatio false digits 1) (powerOfTen places)
    if result.isInfinite then none else some result

/-- Digits scaled down. -/
def scaledDown (digits places : Nat) : Binary64 :=
  let start := ofRatio false digits 1
  if places ≤ scalingStep then quotient start (powerOfTen places)
  else if places ≤ 2 * scalingStep then
    quotient (quotient start (powerOfTen scalingStep)) (powerOfTen (places - scalingStep))
  else zero false

/-- `±digits · 10^exponent`, scaled in floating point. -/
def scaled? (negative : Bool) (digits : Nat) (exponent : Int) : Option Binary64 :=
  let magnitude :=
    if 0 ≤ exponent then scaledUp? digits exponent.toNat
    else some (scaledDown digits exponent.natAbs)
  magnitude.map (withSign negative)

end Binary64

/-! ## Reading -/

namespace JsonNumber

/-- Takes digits as long as the number they make fits 64 bits, and counts them. -/
def takeFitting (digits count : Nat) : List Char → (Nat × Nat) × List Char
  | [] => ((digits, count), [])
  | c :: rest =>
      let more := 10 * digits + Reader.digitValue c
      if c.isDigit ∧ more < 0x10000000000000000 then takeFitting more (count + 1) rest
      else ((digits, count), c :: rest)

/-- Whether a text starts with a digit. -/
def startsWithDigit (text : List Char) : Bool := (text.head?.map Char.isDigit).getD false

/-- The number without its sign, as digits and a power of ten.  `plain` holds while there is
neither a point nor an exponent and all digits were taken. -/
structure Scan where
  digits : Nat
  exponent : Int
  plain : Bool

/-- Reads the digits before the point.  A leading zero stands alone. -/
def whole : Reader Scan := fun text =>
  match text with
  | '0' :: rest => if startsWithDigit rest then none else some (⟨0, 0, true⟩, rest)
  | _ =>
      let ((digits, count), rest) := takeFitting 0 0 text
      if count = 0 then none
      else
        let after := rest.dropWhile Char.isDigit
        let dropped := rest.length - after.length
        some (⟨digits, dropped, dropped == 0⟩, after)

/-- Reads the digits after the point, if there is one. -/
def fraction (scan : Scan) : Reader Scan
  | '.' :: text =>
      if startsWithDigit text then
        let ((digits, count), rest) := takeFitting scan.digits 0 text
        some (⟨digits, scan.exponent - count, false⟩, rest.dropWhile Char.isDigit)
      else none
  | text => some (scan, text)

/-- Reads the digits of an exponent. -/
def exponentDigits (scan : Scan) (negative : Bool) : Reader Scan := fun text =>
  if startsWithDigit text then
    let (value, rest) := Decimal.takeDigits 0 text
    some (⟨scan.digits, scan.exponent + if negative then -(value : Int) else value, false⟩, rest)
  else none

/-- Reads an exponent, if there is one. -/
def exponent (scan : Scan) : Reader Scan
  | mark :: text =>
      if mark = 'e' ∨ mark = 'E' then
        match text with
        | '+' :: rest => exponentDigits scan false rest
        | '-' :: rest => exponentDigits scan true rest
        | _ => exponentDigits scan false text
      else some (scan, mark :: text)
  | [] => some (scan, [])

/-- The number of a scanned text.  Minus zero is a double, since integers have no signed zero. -/
def ofScan? (negative : Bool) (scan : Scan) : Option JsonNumber :=
  if scan.plain ∧ !negative then some (.integer scan.digits)
  else if scan.plain ∧ 0 < scan.digits ∧ scan.digits ≤ 0x8000000000000000 then some (.integer (-scan.digits))
  else (Binary64.scaled? negative scan.digits scan.exponent).map .float

/-- Reads a number. -/
def read : Reader JsonNumber := fun text => do
  let (negative, text) := match text with
    | '-' :: rest => (true, rest)
    | _ => (false, text)
  let (scan, text) ← whole text
  let (scan, text) ← fraction scan text
  let (scan, text) ← exponent scan text
  let number ← ofScan? negative scan
  some (number, text)

/-! ## Writing -/

/-- A double is written with a point or an exponent, so that it reads back as one. -/
def layout : Binary64.Layout where
  firstPositional := -5
  lastPositional := 15
  wholeSuffix := ['.', '0']
  exponentMark := 'e'

/-- The text of a number.  What is not finite has none, and `null` stands for it. -/
def text : JsonNumber → String
  | integer value => toString value
  | float value => if value.isFinite then String.ofList (layout.write value) else "null"

example : (read "-12.50e1,".toList).map Prod.snd = some [','] := by decide +kernel

example : (read "18446744073709551616".toList).map Prod.fst
    = some (.float ⟨0x43f0000000000000⟩) := by decide +kernel

example : (read "-0".toList).map Prod.fst = some (.float (.zero true)) := by decide +kernel

example : (read "01".toList).isNone = true := by decide +kernel

end JsonNumber

end CheckedSql
