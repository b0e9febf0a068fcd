import SearchFilter.Binary64
import SearchFilter.Text.Digits

/-!
# Reading JSON numbers

A number without a point or an exponent is an integer if it fits 64 bits. Any other number is
scaled: as many leading digits as fit 64 bits are read as an integer, and the integer is multiplied
or divided once by a power of ten. Both steps round.
-/

namespace SearchFilter.Json

open Text

/-- A number that was read. -/
inductive Number where
  | int (n : Int)
  | float (x : Binary64)
deriving DecidableEq, Repr

/-- The parts of a number's text. -/
structure NumberText where
  negative : Bool
  whole : List Char
  fraction : List Char
  /-- The exponent's sign and digits. -/
  exponent : Option (Bool × List Char)

/-- The digits at the start of a text, if there is one. -/
def takeRun? (s : List Char) : Option (List Char × List Char) :=
  match s.takeWhile Char.isDigit with
  | [] => none
  | ds => some (ds, s.dropWhile Char.isDigit)

/-- A whole part: one digit or digits that do not begin with zero. -/
def takeWhole? (s : List Char) : Option (List Char × List Char) := do
  let (ds, rest) ← takeRun? s
  if ds.head? = some '0' ∧ 1 < ds.length then none else some (ds, rest)

/-- A fraction, if a point begins one. -/
def takeDecimals? : List Char → Option (List Char × List Char)
  | '.' :: s => takeRun? s
  | s => some ([], s)

/-- An exponent, if its letter begins one. -/
def takeExponent? : List Char → Option (Option (Bool × List Char) × List Char)
  | c :: s =>
    if c = 'e' ∨ c = 'E' then do
      let (negative, s) := takeSign s
      let (ds, rest) ← takeRun? s
      some (some (negative, ds), rest)
    else some (none, c :: s)
  | [] => some (none, [])

/-- The text of a number at the start of a text. -/
def takeNumberText? (s : List Char) : Option (NumberText × List Char) := do
  let (negative, s) := match s with
    | '-' :: t => (true, t)
    | t => (false, t)
  let (whole, s) ← takeWhole? s
  let (fraction, s) ← takeDecimals? s
  let (exponent, s) ← takeExponent? s
  some (⟨negative, whole, fraction, exponent⟩, s)

/-- The greatest significand. -/
def greatestSignificand : Nat := UInt64.size - 1

/-- A significand and a power of ten. -/
structure Scaled where
  significand : Nat
  exponent : Int

/-- Add the digits of a whole part. From the first one that does not fit on, they only raise the
exponent. -/
def Scaled.addWhole (x : Scaled) : List Char → Scaled
  | [] => x
  | d :: ds =>
    let next := 10 * x.significand + digitValue d
    if next ≤ greatestSignificand then addWhole { x with significand := next } ds
    else { x with exponent := x.exponent + (ds.length + 1) }

/-- Add the digits of a fraction. From the first one that does not fit on, they are dropped. -/
def Scaled.addFraction (x : Scaled) : List Char → Scaled
  | [] => x
  | d :: ds =>
    let next := 10 * x.significand + digitValue d
    if next ≤ greatestSignificand then addFraction ⟨next, x.exponent - 1⟩ ds else x

/-- The magnitude of a power of ten. -/
def tenPow (n : Nat) : Nat := Binary64.nearestDecimal 1 n

/-- A magnitude times a power of ten, if it is not too large. -/
def scale? (magnitude : Nat) (exponent : Int) : Option Nat :=
  if exponent.natAbs ≤ 308 then
    if 0 ≤ exponent then
      let r := Binary64.mulMagnitude magnitude (tenPow exponent.toNat)
      if r < Binary64.infinityMagnitude then some r else none
    else some (Binary64.divMagnitude magnitude (tenPow (-exponent).toNat))
  else if magnitude = 0 then some 0
  else if 0 ≤ exponent then none
  else scale? (Binary64.divMagnitude magnitude (tenPow 308)) (exponent + 308)
termination_by (-exponent).toNat
decreasing_by omega

/-- The greatest exponent that is taken at its value. -/
def greatestExponent : Nat := Int32.maxValue.toInt.toNat

/-- The magnitude of a number with a point, an exponent or many digits. -/
def NumberText.magnitude? (t : NumberText) (x : Scaled) : Option Nat :=
  let start := Binary64.nearest ⟨x.significand, 1⟩
  match t.exponent with
  | none => scale? start x.exponent
  | some (negative, ds) =>
    let n := digitsValue ds
    if greatestExponent < n then
      if negative ∨ x.significand = 0 then some 0 else none
    else scale? start (x.exponent + (if negative then -(n : Int) else n))

/-- The number of a text, if it is not too large. -/
def NumberText.number? (t : NumberText) : Option Number :=
  let whole := Scaled.addWhole ⟨0, 0⟩ t.whole
  if t.fraction = [] ∧ t.exponent = none ∧ whole.exponent = 0 then
    let n := whole.significand
    if t.negative then
      if n = 0 ∨ UInt64.size / 2 < n then some (.float (.ofMagnitude true (Binary64.nearest ⟨n, 1⟩)))
      else some (.int (-(n : Int)))
    else some (.int n)
  else
    (t.magnitude? (whole.addFraction t.fraction)).map fun m => .float (.ofMagnitude t.negative m)

/-- A number at the start of a text. -/
def takeNumber? (s : List Char) : Option (Number × List Char) := do
  let (t, rest) ← takeNumberText? s
  let n ← t.number?
  some (n, rest)

end SearchFilter.Json
