/-!
# Dates and times

Dates of the proleptic Gregorian calendar, times of day to the nanosecond, and
points in time without a zone.  Every value is valid by construction: a `Date`
names a day that exists, and a `TimeOfDay` has a second that exists.

A leap second is a second with a thousand million nanoseconds or more.  It is
written as the second behind it, so a leap second at the end of a minute is
written as second 60.
-/

namespace CheckedSql

/-! ## Dates -/

/-- Whether a year has a 29th of February. -/
def isLeapYear (year : Int) : Bool :=
  year % 4 == 0 && (year % 100 != 0 || year % 400 == 0)

/-- The number of days of a month. -/
def daysInMonth (year : Int) (month : Nat) : Nat :=
  if month = 2 then if isLeapYear year then 29 else 28
  else if month = 4 ∨ month = 6 ∨ month = 9 ∨ month = 11 then 30
  else 31

/-- Whether a year, a month and a day name a date of the supported range. -/
def IsDate (year : Int) (month day : Nat) : Prop :=
  -262143 ≤ year ∧ year ≤ 262142 ∧ 1 ≤ month ∧ month ≤ 12 ∧ 1 ≤ day ∧ day ≤ daysInMonth year month

instance (year : Int) (month day : Nat) : Decidable (IsDate year month day) :=
  inferInstanceAs (Decidable (_ ∧ _))

/-- A calendar date. -/
structure Date where
  year : Int
  month : Nat
  day : Nat
  valid : IsDate year month day
  deriving DecidableEq

/-- The date of a year, a month and a day, if there is one. -/
def Date.of? (year : Int) (month day : Nat) : Option Date :=
  if valid : IsDate year month day then some ⟨year, month, day, valid⟩ else none

/-! ## Times of day -/

/-- Whether an hour, a minute, a second and nanoseconds name a time of day. -/
def IsTimeOfDay (hour minute second nano : Nat) : Prop :=
  hour < 24 ∧ minute < 60 ∧ second < 60 ∧ nano < 2000000000

instance (hour minute second nano : Nat) : Decidable (IsTimeOfDay hour minute second nano) :=
  inferInstanceAs (Decidable (_ ∧ _))

/-- A time of day. -/
structure TimeOfDay where
  hour : Nat
  minute : Nat
  second : Nat
  /-- Nanoseconds since the second began; a thousand million and more within a leap second. -/
  nano : Nat
  valid : IsTimeOfDay hour minute second nano
  deriving DecidableEq

/-- The time of day of its parts, if there is one. -/
def TimeOfDay.of? (hour minute second nano : Nat) : Option TimeOfDay :=
  if valid : IsTimeOfDay hour minute second nano then some ⟨hour, minute, second, nano, valid⟩
  else none

/-- A date with a time of day. -/
structure Timestamp where
  date : Date
  time : TimeOfDay
  deriving DecidableEq

/-! ## Text -/

/-- The decimal digits of a number, with zeros in front up to a width. -/
def paddedDigits (width number : Nat) : List Char :=
  (Nat.toDigits 10 number).leftpad width '0'

/-- A year: four digits from 0 to 9999, and a sign with at least four digits outside that range. -/
def yearText (year : Int) : List Char :=
  if year < 0 then '-' :: paddedDigits 4 year.natAbs
  else if 9999 < year then '+' :: paddedDigits 4 year.natAbs
  else paddedDigits 4 year.natAbs

/-- A date as `year-month-day`. -/
def Date.text (date : Date) : List Char :=
  yearText date.year ++ '-' :: paddedDigits 2 date.month ++ '-' :: paddedDigits 2 date.day

/-- A fraction of a second: no digits, or the first of three, six and nine that is exact. -/
def fractionText (nano : Nat) : List Char :=
  if nano = 0 then []
  else if nano % 1000000 = 0 then '.' :: paddedDigits 3 (nano / 1000000)
  else if nano % 1000 = 0 then '.' :: paddedDigits 6 (nano / 1000)
  else '.' :: paddedDigits 9 nano

/-- A time as `hour:minute:second` with its fraction. -/
def TimeOfDay.text (time : TimeOfDay) : List Char :=
  paddedDigits 2 time.hour ++ ':' :: paddedDigits 2 time.minute
    ++ ':' :: paddedDigits 2 (time.second + time.nano / 1000000000)
    ++ fractionText (time.nano % 1000000000)

/-- A timestamp as its date and its time with a separator between them. -/
def Timestamp.text (separator : Char) (timestamp : Timestamp) : List Char :=
  timestamp.date.text ++ separator :: timestamp.time.text

example : yearText (-44) = "-0044".toList := by decide

example : yearText 10000 = "+10000".toList := by decide

example : fractionText 120000000 = ".120".toList := by decide

example : (TimeOfDay.of? 23 59 59 1500000000).map TimeOfDay.text
    = some "23:59:60.500".toList := by decide +kernel

end CheckedSql
