import SearchFilter.Binary64.Decimal
import SearchFilter.Text.Digits

/-!
# Reading and writing floating-point numbers

`read?` accepts an optional sign, digits with an optional point before, inside or after them, and
an optional exponent, or one of the words for infinity and not-a-number in any letter case. A
`Style` says how the shortest decimal of a number is laid out.
-/

namespace SearchFilter.Binary64

open Text

/-! ## Reading -/

/-- The digits before and after the point, and the exponent. -/
def readDecimal? (s : List Char) : Option Decimal := do
  let whole := s.takeWhile Char.isDigit
  let afterWhole := s.dropWhile Char.isDigit
  let (fraction, rest) := match afterWhole with
    | '.' :: t => (t.takeWhile Char.isDigit, t.dropWhile Char.isDigit)
    | t => ([], t)
  if whole = [] ∧ fraction = [] then none
  else
    let exponent ← match rest with
      | [] => some 0
      | c :: t => if c = 'e' ∨ c = 'E' then readInteger? t else none
    some ⟨digitsValue (whole ++ fraction), exponent - fraction.length⟩

/-- Read a number, rounding to the nearest. -/
def read? (s : List Char) : Option Binary64 :=
  let (negative, t) := takeSign s
  let word := t.map Char.toLower
  if word = "inf".toList ∨ word = "infinity".toList then some (infinity negative)
  else if word = "nan".toList then some (nan negative)
  else (readDecimal? t).map fun d => ofMagnitude negative (nearestDecimal d.digits d.exponent)

/-! ## Writing -/

/-- How finite numbers are written. -/
structure Style where
  /-- Which of two equally near shortest decimals is written. -/
  tie : Tie
  /-- Whether a whole number keeps `.0`. -/
  wholePoint : Bool
  /-- The decimal exponents that are written without an exponent; none for all of them. -/
  positional : Option (Int × Int)

/-- Shortest digits with no exponent and no point after a whole number. -/
def Style.plain : Style := ⟨.up, false, none⟩

/-- Shortest digits with no exponent, and a point in every number. -/
def Style.pointed : Style := ⟨.up, true, none⟩

/-- Shortest digits with a point or an exponent in every number; the exponent is written from
`10 ^ 16` on and below `10 ^ (-5)`. -/
def Style.interchange : Style := ⟨.even, true, some (-5, 15)⟩

/-- A decimal without an exponent. -/
def positionalText (wholePoint : Bool) (d : Decimal) : List Char :=
  let ds := decimalDigits d.digits
  let point := (ds.length : Int) + d.exponent
  if 0 ≤ d.exponent then
    ds ++ List.replicate d.exponent.toNat '0' ++ (if wholePoint then ['.', '0'] else [])
  else if 0 < point then
    ds.take point.toNat ++ '.' :: ds.drop point.toNat
  else
    '0' :: '.' :: (List.replicate (-point).toNat '0' ++ ds)

/-- A decimal with one digit before the point and a signed exponent. -/
def exponentText (d : Decimal) : List Char :=
  let ds := decimalDigits d.digits
  let exponent := (ds.length : Int) + d.exponent - 1
  let sign := if exponent < 0 then '-' else '+'
  let fraction := match ds.drop 1 with
    | [] => []
    | rest => '.' :: rest
  ds.take 1 ++ fraction ++ 'e' :: sign :: decimalDigits exponent.natAbs

/-- A finite number without its sign. -/
def Style.magnitudeText (style : Style) (magnitude : Nat) : List Char :=
  let d := shortest style.tie magnitude
  let exponent := ((decimalDigits d.digits).length : Int) + d.exponent - 1
  match style.positional with
  | some (least, greatest) =>
    if least ≤ exponent ∧ exponent ≤ greatest then positionalText style.wholePoint d
    else exponentText d
  | none => positionalText style.wholePoint d

/-- The text of a number. Not-a-number has no sign. -/
def text (style : Style) (x : Binary64) : String :=
  if x.isNaN then "NaN"
  else
    let body := if x.isInfinite then "inf".toList else style.magnitudeText x.magnitude
    String.ofList (if x.isNegative then '-' :: body else body)

end SearchFilter.Binary64
