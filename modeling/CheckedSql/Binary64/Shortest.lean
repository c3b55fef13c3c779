import CheckedSql.Binary64.Rounding

/-!
# The fewest digits that read back

A positive double `m · 2^q` is the nearest double of every number in an interval
around it, half of the way to its neighbours.  The ends belong to the interval
when `m` is even, since ties are read as even.  Its *shortest decimal* is the
decimal in that interval with the fewest digits, and of those the nearest.

The search goes through grids `10^k · ℕ`, the coarsest first.  On each grid only
the two neighbours of the number can be the nearest hit, so these two are tried,
in exact arithmetic.  A `Binary64.Layout` then says how the digits are written.
-/

namespace CheckedSql

namespace Binary64

/-! ## The interval -/

/-- The numbers that read as one double, with the double in the middle, all in units of
`2^exponent`. -/
structure Interval where
  lower : Nat
  middle : Nat
  upper : Nat
  exponent : Int
  /-- Whether the two ends belong to the interval. -/
  closed : Bool

/-- The interval of a positive finite number.  Below a power of two the neighbour is only half as
far away. -/
def interval (x : Binary64) : Interval :=
  let m := x.significand
  let below := if x.fraction = 0 ∧ 1 < x.exponentField then 1 else 2
  ⟨4 * m - below, 4 * m, 4 * m + 2, x.exponent - 2, m % 2 == 0⟩

namespace Interval

/-- A grid point `count · 10^k` and a position `units · 2^exponent`, brought to one unit. -/
def commonScale (interval : Interval) (k : Int) (count units : Nat) : Nat × Nat :=
  (count * Nat.pow 10 k.toNat * Nat.pow 2 (-interval.exponent).toNat,
    units * Nat.pow 2 interval.exponent.toNat * Nat.pow 10 (-k).toNat)

/-- The last grid point of `10^k · ℕ` that is not above the middle. -/
def floor (interval : Interval) (k : Int) : Nat :=
  let (step, position) := interval.commonScale k 1 interval.middle
  position / step

/-- Whether `count · 10^k` is in the interval. -/
def contains (interval : Interval) (k : Int) (count : Nat) : Bool :=
  let (point, lower) := interval.commonScale k count interval.lower
  let (_, upper) := interval.commonScale k count interval.upper
  if interval.closed then lower ≤ point && point ≤ upper else lower < point && point < upper

/-- Whether the grid point after `count · 10^k` is at least as near to the middle. -/
def nextIsNearer (interval : Interval) (k : Int) (count : Nat) : Bool :=
  let (point, position) := interval.commonScale k count interval.middle
  let (next, _) := interval.commonScale k (count + 1) interval.middle
  next - position ≤ position - point

/-- The nearest point of the grid `10^k · ℕ` in the interval; of two equally near ones the upper.
-/
def nearest? (interval : Interval) (k : Int) : Option Nat :=
  let count := interval.floor k
  match interval.contains k count && count != 0, interval.contains k (count + 1) with
  | true, true => some (if interval.nextIsNearer k count then count + 1 else count)
  | true, false => some count
  | false, true => some (count + 1)
  | false, false => none

/-- The exponent of the leading digit of the middle. -/
def leadingExponent (interval : Interval) : Int :=
  ((Nat.toDigits 10 (interval.floor (-350))).length : Int) - 351

/-- The first hit on the grids `10^k`, `10^(k-1)`, … -/
def firstHit (interval : Interval) : Nat → Int → Nat × Int
  | 0, k => (interval.floor k, k)
  | fuel + 1, k =>
      match interval.nearest? k with
      | some count => (count, k)
      | none => firstHit interval fuel (k - 1)

end Interval

/-! ## Digits -/

/-- A decimal `d.ddd · 10^exponent` with its digits as characters.  There is at least one digit,
and no zero at the end. -/
structure Digits where
  leading : Char
  others : List Char
  exponent : Int
  deriving DecidableEq, Repr

/-- The digits of `count · 10^k`. -/
def Digits.ofCount (count : Nat) (k : Int) : Digits :=
  match Nat.toDigits 10 count with
  | [] => ⟨'0', [], 0⟩
  | leading :: others =>
      ⟨leading, (others.reverse.dropWhile (· == '0')).reverse, k + others.length⟩

/-- The shortest decimal of a finite number, its sign left out.  A hit is found on the grid of the
seventeenth digit at the latest. -/
def shortest (x : Binary64) : Digits :=
  if x.isZero then ⟨'0', [], 0⟩
  else
    let (count, k) := x.interval.firstHit 17 x.interval.leadingExponent
    Digits.ofCount count k

/-! ## Layout -/

/-- How a decimal is written. -/
structure Layout where
  /-- The least exponent that is written without an exponent part. -/
  firstPositional : Int
  /-- The greatest one. -/
  lastPositional : Int
  /-- What stands for the missing digits after the point of a whole number. -/
  wholeSuffix : List Char
  /-- What introduces an exponent part. -/
  exponentMark : Char

/-- The digits written out, with their point in place. -/
def Layout.positional (layout : Layout) (digits : Digits) : List Char :=
  if digits.exponent < 0 then
    '0' :: '.' :: List.replicate ((-digits.exponent).toNat - 1) '0'
      ++ digits.leading :: digits.others
  else
    let places := digits.exponent.toNat
    let whole := digits.leading :: digits.others.take places
      ++ List.replicate (places - digits.others.length) '0'
    match digits.others.drop places with
    | [] => whole ++ layout.wholeSuffix
    | rest => whole ++ '.' :: rest

/-- The digits with the point after the first one and an exponent part. -/
def Layout.scientific (layout : Layout) (digits : Digits) : List Char :=
  let mantissa := match digits.others with
    | [] => [digits.leading]
    | others => digits.leading :: '.' :: others
  mantissa ++ layout.exponentMark :: (toString digits.exponent).toList

/-- The text of a finite number. -/
def Layout.write (layout : Layout) (x : Binary64) : List Char :=
  let digits := x.shortest
  (if x.isNegative then ['-'] else [])
    ++ if layout.firstPositional ≤ digits.exponent ∧ digits.exponent ≤ layout.lastPositional then
        layout.positional digits
      else layout.scientific digits

end Binary64

end CheckedSql
