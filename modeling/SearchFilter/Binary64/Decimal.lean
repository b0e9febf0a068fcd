import SearchFilter.Binary64

/-!
# The shortest decimal of a floating-point number

`shortest` finds the decimal with the fewest digits among those that read back as the number, and
of these the nearest to it. The reals that round to a finite number form an interval, closed when
the significand is even. For 1, 2, … 17 digits the two neighbours of the number on the decimal
grid of that many digits are tested, and the first grid with a neighbour in the interval wins.
-/

namespace SearchFilter

/-- The number `digits * 10 ^ exponent`. -/
structure Decimal where
  digits : Nat
  exponent : Int
deriving DecidableEq, Repr

namespace Decimal

/-- Move trailing zeros from the digits to the exponent. -/
def stripZeros (digits : Nat) (exponent : Int) : Decimal :=
  if h : digits ≠ 0 ∧ digits % 10 = 0 then stripZeros (digits / 10) (exponent + 1)
  else ⟨digits, exponent⟩
termination_by digits
decreasing_by omega

end Decimal

namespace Binary64

/-- Which of two equally near decimals is taken. -/
inductive Tie where
  | up
  | even
deriving DecidableEq, Repr

/-- The reals that round to a number, and the number itself, over a common denominator. -/
structure Interval where
  low : Nat
  value : Nat
  high : Nat
  den : Nat
  closed : Bool
deriving Repr

namespace Interval

/-- The interval of a finite magnitude. Below a power of two the numbers lie half as far apart. -/
def ofMagnitude (magnitude : Nat) : Interval :=
  let p := parts magnitude
  let m := p.significand
  let below := if m = leadingBit ∧ -1074 < p.exponent then 1 else 2
  let scale := Ratio.shift ⟨1, 1⟩ (p.exponent - 2)
  ⟨(4 * m - below) * scale.num, 4 * m * scale.num, (4 * m + 2) * scale.num, scale.den, m % 2 = 0⟩

/-- Whether `c` units of a decimal grid lie in the interval. -/
def holds (i : Interval) (unit : Ratio) (c : Nat) : Bool :=
  let point := c * unit.num * i.den
  let low := i.low * unit.den
  let high := i.high * unit.den
  if i.closed then low ≤ point && point ≤ high else low < point && point < high

/-- The best point of a grid in the interval, if one of the number's neighbours lies there. -/
def onGrid? (i : Interval) (tie : Tie) (unit : Ratio) : Option Nat :=
  let lower := i.value * unit.den / (i.den * unit.num)
  match i.holds unit lower, i.holds unit (lower + 1) with
  | false, false => none
  | true, false => some lower
  | false, true => some (lower + 1)
  | true, true =>
    let twice := 2 * i.value * unit.den
    let middle := (2 * lower + 1) * unit.num * i.den
    if twice < middle then some lower
    else if middle < twice then some (lower + 1)
    else match tie with
      | .up => some (lower + 1)
      | .even => some (lower + lower % 2)

/-- The number of digits before the decimal point: the least `k` with the number below
`10 ^ k`. -/
def magnitudeOfTen (i : Interval) : Int :=
  ((Nat.toDigits 10 (i.value * Nat.pow 10 330 / i.den)).length : Int) - 330

/-- Try `n` digits, then one more, `fuel` times. -/
def search (i : Interval) (tie : Tie) (top : Int) : Nat → Int → Decimal
  | 0, n => ⟨i.value * (Ratio.tenPow (top - n)).den / (i.den * (Ratio.tenPow (top - n)).num),
      top - n⟩
  | fuel + 1, n =>
    match i.onGrid? tie (Ratio.tenPow (top - n)) with
    | some c => Decimal.stripZeros c (top - n)
    | none => search i tie top fuel (n + 1)

end Interval

/-- The shortest decimal that reads back as a finite magnitude. -/
def shortest (tie : Tie) (magnitude : Nat) : Decimal :=
  if magnitude = 0 then ⟨0, 0⟩
  else
    let i := Interval.ofMagnitude magnitude
    i.search tie i.magnitudeOfTen 17 1

end Binary64

end SearchFilter
