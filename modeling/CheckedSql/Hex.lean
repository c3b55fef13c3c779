/-!
# Hexadecimal text

Two digits per byte, the high one first.
-/

namespace CheckedSql

/-- The two hexadecimal digits of a byte, letters in lower case. -/
def byteHex (byte : UInt8) : List Char :=
  [Nat.digitChar (byte.toNat / 16), Nat.digitChar (byte.toNat % 16)]

/-- The hexadecimal digits of a byte string, letters in lower case. -/
def hexLower (bytes : List UInt8) : List Char := bytes.flatMap byteHex

/-- The hexadecimal digits of a byte string, letters in upper case. -/
def hexUpper (bytes : List UInt8) : List Char := (hexLower bytes).map Char.toUpper

/-- The value of a hexadecimal digit, in either case. -/
def hexDigitValue? (c : Char) : Option Nat :=
  if '0' ≤ c ∧ c ≤ '9' then some (c.toNat - '0'.toNat)
  else if 'a' ≤ c ∧ c ≤ 'f' then some (c.toNat - 'a'.toNat + 10)
  else if 'A' ≤ c ∧ c ≤ 'F' then some (c.toNat - 'A'.toNat + 10)
  else none

/-- The byte string of hexadecimal digits, in either case. -/
def ofHex? : List Char → Option (List UInt8)
  | [] => some []
  | high :: low :: rest => do
      let h ← hexDigitValue? high
      let l ← hexDigitValue? low
      let bytes ← ofHex? rest
      some (UInt8.ofNat (16 * h + l) :: bytes)
  | [_] => none

end CheckedSql
