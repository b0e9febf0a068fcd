/-!
# Floating-point numbers of 64 bits

A number is its bit pattern: a sign bit above a magnitude. Magnitudes up to `infinity` are ordered
as the reals they stand for, and every magnitude above it is not a number. `nearest` is the
magnitude of the number nearest to a quotient, with ties to the even one, and arithmetic is exact
arithmetic followed by `nearest`.
-/

namespace SearchFilter

/-- A floating-point number of 64 bits, as its bit pattern. -/
structure Binary64 where
  bits : UInt64
deriving DecidableEq, Repr, Inhabited

namespace Binary64

/-- The weight of the sign bit. -/
def signBit : Nat := 0x8000000000000000

/-- The least significand of a number that is not too small for all its bits. -/
def leadingBit : Nat := 0x10000000000000

/-- The magnitude of the infinities. -/
def infinityMagnitude : Nat := 0x7ff0000000000000

def ofMagnitude (negative : Bool) (magnitude : Nat) : Binary64 :=
  ⟨UInt64.ofNat (if negative then signBit + magnitude else magnitude)⟩

def isNegative (x : Binary64) : Bool := signBit ≤ x.bits.toNat

/-- The bits without the sign. -/
def magnitude (x : Binary64) : Nat := x.bits.toNat % signBit

def isNaN (x : Binary64) : Bool := infinityMagnitude < x.magnitude

def isInfinite (x : Binary64) : Bool := x.magnitude == infinityMagnitude

def isFinite (x : Binary64) : Bool := x.magnitude < infinityMagnitude

def isZero (x : Binary64) : Bool := x.magnitude == 0

def infinity (negative : Bool) : Binary64 := ofMagnitude negative infinityMagnitude

def nan (negative : Bool) : Binary64 := ofMagnitude negative 0x7ff8000000000000

/-- Equality of numbers: no NaN equals anything, and the two zeros are equal. -/
def same (x y : Binary64) : Bool :=
  !x.isNaN && !y.isNaN && (x == y || (x.isZero && y.isZero))

theorem same_self_iff (x : Binary64) : x.same x = true ↔ x.isNaN = false := by
  simp [same]

/-! ## The value of a finite magnitude -/

/-- A finite magnitude stands for `significand * 2 ^ exponent`. -/
structure Parts where
  significand : Nat
  exponent : Int
deriving DecidableEq, Repr

def parts (magnitude : Nat) : Parts :=
  if magnitude < leadingBit then ⟨magnitude, -1074⟩
  else ⟨leadingBit + magnitude % leadingBit, (magnitude / leadingBit : Nat) - 1075⟩

/-- A non-negative fraction. -/
structure Ratio where
  num : Nat
  den : Nat
deriving DecidableEq, Repr

namespace Ratio

def mul (r s : Ratio) : Ratio := ⟨r.num * s.num, r.den * s.den⟩

def div (r s : Ratio) : Ratio := ⟨r.num * s.den, r.den * s.num⟩

/-- The fraction times a power of two. -/
def shift (r : Ratio) (e : Int) : Ratio :=
  if 0 ≤ e then ⟨r.num <<< e.toNat, r.den⟩ else ⟨r.num, r.den <<< (-e).toNat⟩

/-- The integer nearest to the fraction, the even one of two. -/
def round (r : Ratio) : Nat :=
  let floor := r.num / r.den
  let twice := 2 * (r.num % r.den)
  if twice < r.den then floor else if r.den < twice then floor + 1 else floor + floor % 2

/-- `10 ^ e` as a fraction. -/
def tenPow (e : Int) : Ratio :=
  if 0 ≤ e then ⟨Nat.pow 10 e.toNat, 1⟩ else ⟨1, Nat.pow 10 (-e).toNat⟩

end Ratio

/-- The value of a finite magnitude. -/
def ratio (magnitude : Nat) : Ratio :=
  let p := parts magnitude
  Ratio.shift ⟨p.significand, 1⟩ p.exponent

/-- The magnitude nearest to a fraction, ties going to the even one, infinity from half a unit
above the greatest finite magnitude on. -/
def nearest (r : Ratio) : Nat :=
  if r.num = 0 then 0
  else
    let guess : Int := max ((r.num.log2 : Int) - r.den.log2 - 53) (-1074)
    let scaled := r.shift (-guess)
    let exponent := if scaled.num / scaled.den < 2 * leadingBit then guess else guess + 1
    let significand := (r.shift (-exponent)).round
    min infinityMagnitude ((exponent + 1074).toNat * leadingBit + significand)

/-- The product of two finite magnitudes, rounded. -/
def mulMagnitude (x y : Nat) : Nat := nearest ((ratio x).mul (ratio y))

/-- The quotient of two finite magnitudes, rounded. -/
def divMagnitude (x y : Nat) : Nat := nearest ((ratio x).div (ratio y))

/-- The magnitude nearest to `digits * 10 ^ exponent`. The first two bounds only save work: past
them the result is infinite, or too small to differ from zero. -/
def nearestDecimal (digits : Nat) (exponent : Int) : Nat :=
  if digits = 0 then 0
  else if 400 < exponent then infinityMagnitude
  else if (digits.log2 : Int) + 1 + 3 * exponent < -1080 then 0
  else nearest (Ratio.mul ⟨digits, 1⟩ (Ratio.tenPow exponent))

end Binary64

end SearchFilter
