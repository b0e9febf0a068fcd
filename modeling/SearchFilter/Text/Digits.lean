/-!
# Decimal digits

Reading and writing whole numbers in decimal. Only the ten ASCII digits count.
-/

namespace SearchFilter.Text

/-- Decimal digits of a number, with no leading zero. -/
def decimalDigits (n : Nat) : List Char := Nat.toDigits 10 n

/-- At least `width` digits, filled up with zeros on the left. -/
def paddedDigits (width n : Nat) : List Char :=
  let ds := decimalDigits n
  List.replicate (width - ds.length) '0' ++ ds

/-- The text of an integer. -/
def integerText (n : Int) : String :=
  String.ofList (if n < 0 then '-' :: decimalDigits n.natAbs else decimalDigits n.natAbs)

/-- The number that a digit denotes. -/
def digitValue (c : Char) : Nat := c.toNat - '0'.toNat

/-- The number that a list of digits denotes. -/
def digitsValue (ds : List Char) : Nat := ds.foldl (fun n d => 10 * n + digitValue d) 0

/-- Whether a text is made of digits, at least one. -/
def isDigits (s : List Char) : Bool := !s.isEmpty && s.all Char.isDigit

/-- A sign, if there is one, and what follows. The flag says that the sign is a minus. -/
def takeSign : List Char → Bool × List Char
  | '-' :: s => (true, s)
  | '+' :: s => (false, s)
  | s => (false, s)

/-- An integer: an optional sign and at least one digit. -/
def readInteger? (s : List Char) : Option Int :=
  let (negative, ds) := takeSign s
  if isDigits ds then some (if negative then -(digitsValue ds : Int) else digitsValue ds) else none

/-- Exactly `n` digits at the start of a text. -/
def takeDigits? (n : Nat) (s : List Char) : Option (Nat × List Char) :=
  let ds := s.take n
  if ds.length = n ∧ ds.all Char.isDigit then some (digitsValue ds, s.drop n) else none

/-- At least one and at most `most` digits at the start of a text. -/
def takeNumber? (most : Nat) (s : List Char) : Option (Nat × List Char) :=
  let ds := (s.take most).takeWhile Char.isDigit
  if ds.isEmpty then none else some (digitsValue ds, s.drop ds.length)

/-- All the digits at the start of a text, at least one. -/
def takeLongNumber? (s : List Char) : Option (Nat × List Char) :=
  let ds := s.takeWhile Char.isDigit
  if ds.isEmpty then none else some (digitsValue ds, s.dropWhile Char.isDigit)

/-- What follows a given character. -/
def expect? (c : Char) : List Char → Option (List Char)
  | d :: s => if d = c then some s else none
  | [] => none

end SearchFilter.Text
