import CheckedSql.Calendar.Basic
import CheckedSql.Reader

/-!
# Reading dates and times

The reader accepts a little more than `Calendar.Basic` writes: one digit where
two are written, a sign in front of any year, blanks before a number or a
separator and at the end, and a time without seconds.  Digits of a fraction
beyond the ninth are dropped, and second 60 is a leap second at the end of its
minute.
-/

namespace CheckedSql

/-- The characters that Unicode counts as white space. -/
def isBlank (c : Char) : Bool :=
  c.isWhitespace || c == '\x0b' || c == '\x0c' || c == '\u0085' || c == '\u00a0' || c == '\u1680'
    || ('\u2000' ≤ c && c ≤ '\u200a') || c == '\u2028' || c == '\u2029' || c == '\u202f'
    || c == '\u205f' || c == '\u3000'

namespace Reader

/-- Skips blanks. -/
def blanks (text : List Char) : List Char := text.dropWhile isBlank

/-- Reads at most `width` digits, at least one, into a number. -/
def digits (width : Nat) : Reader Nat := fun text =>
  let taken := (text.take width).takeWhile Char.isDigit
  if taken.isEmpty then none
  else some (taken.foldl (fun n c => 10 * n + digitValue c) 0, text.drop taken.length)

/-- Reads a number of one or two digits after blanks. -/
def twoDigits : Reader Nat := fun text => digits 2 (blanks text)

/-- Reads a year after blanks: up to four digits, or any number of digits after a sign. -/
def year : Reader Int := fun text =>
  match blanks text with
  | '-' :: rest => (digits rest.length rest).map fun (n, rest) => (-(n : Int), rest)
  | '+' :: rest => (digits rest.length rest).map fun (n, rest) => ((n : Int), rest)
  | rest => (digits 4 rest).map fun (n, rest) => ((n : Int), rest)

/-- Reads a separator after blanks. -/
def separator (expected : Char) : Reader Unit := fun text => char expected (blanks text)

/-- Reads `year-month-day`. -/
def date : Reader Date := fun text => do
  let (y, text) ← year text
  let ((), text) ← separator '-' text
  let (m, text) ← twoDigits text
  let ((), text) ← separator '-' text
  let (d, text) ← twoDigits text
  let date ← Date.of? y m d
  some (date, text)

/-- Reads a fraction of a second as nanoseconds, zero if there is no point. -/
def fraction : Reader Nat
  | '.' :: rest => do
      let (n, after) ← digits 9 rest
      some (n * Nat.pow 10 (9 - (rest.length - after.length)), after.dropWhile Char.isDigit)
  | text => some (0, text)

/-- The time of day of read parts; second 60 is a leap second at the end of its minute. -/
def timeOfParts? (hour minute second nano : Nat) : Option TimeOfDay :=
  if second = 60 then TimeOfDay.of? hour minute 59 (nano + 1000000000)
  else if nano < 1000000000 then TimeOfDay.of? hour minute second nano
  else none

/-- Reads `:second` with its fraction. -/
def secondAndFraction : Reader (Nat × Nat) := fun text => do
  let ((), text) ← separator ':' text
  let (second, text) ← twoDigits text
  let (nano, text) ← fraction text
  some ((second, nano), text)

/-- Reads `hour:minute`. -/
def hourAndMinute : Reader (Nat × Nat) := fun text => do
  let (hour, text) ← twoDigits text
  let ((), text) ← separator ':' text
  let (minute, text) ← twoDigits text
  some ((hour, minute), text)

end Reader

/-- Reads a date. -/
def Date.ofText? (text : String) : Option Date := do
  let (date, rest) ← Reader.date text.toList
  if (Reader.blanks rest).isEmpty then some date else none

/-- Reads a time of day.  The seconds may be missing. -/
def TimeOfDay.ofText? (text : String) : Option TimeOfDay := do
  let ((hour, minute), rest) ← Reader.hourAndMinute text.toList
  let ((second, nano), rest) := (Reader.secondAndFraction rest).getD ((0, 0), rest)
  if (Reader.blanks rest).isEmpty then Reader.timeOfParts? hour minute second nano else none

/-- Reads a date and a time with `T` between them. -/
def Timestamp.ofText? (text : String) : Option Timestamp := do
  let (date, rest) ← Reader.date text.toList
  let ((), rest) ← Reader.separator 'T' rest
  let ((hour, minute), rest) ← Reader.hourAndMinute rest
  let ((second, nano), rest) ← Reader.secondAndFraction rest
  if (Reader.blanks rest).isEmpty then
    let time ← Reader.timeOfParts? hour minute second nano
    some ⟨date, time⟩
  else none

example : (Date.ofText? "2024-02-29").isSome = true := by decide +kernel

example : (Date.ofText? "2023-02-29").isSome = false := by decide +kernel

example : (TimeOfDay.ofText? "01:02:03.500").map TimeOfDay.text
    = some "01:02:03.500".toList := by decide +kernel

example : (TimeOfDay.ofText? "23:59:60").map TimeOfDay.text
    = some "23:59:60".toList := by decide +kernel

end CheckedSql
