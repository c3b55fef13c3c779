/-!
# Readers

A reader takes characters off the front of a text and returns a value with what
is left, or nothing if the text does not start as it should.
-/

namespace CheckedSql

/-- A reader of a value at the front of a text. -/
abbrev Reader (α : Type) := List Char → Option (α × List Char)

namespace Reader

/-- Reads one character. -/
def char (expected : Char) : Reader Unit
  | c :: rest => if c = expected then some ((), rest) else none
  | [] => none

/-- Reads a fixed text. -/
def literal : List Char → Reader Unit
  | [], text => some ((), text)
  | expected :: others, text => do
      let ((), rest) ← char expected text
      literal others rest

/-- The value of a decimal digit. -/
def digitValue (c : Char) : Nat := c.toNat - '0'.toNat

end Reader

end CheckedSql
