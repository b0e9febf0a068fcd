import SearchFilter.Instant
import SearchFilter.Text.Blank
import SearchFilter.Text.Digits

/-!
# Reading instants

Three formats. `readRfc3339?` is RFC 3339: every field has its full width. `readRelaxed?` is the
same order of fields with shorter numbers, a signed year, white space between the parts and more
spellings of the zone. `readDate?` is a date alone and stands for its midnight.
-/

namespace SearchFilter.Instant

open Text

/-- A fraction of a second, if a point begins one; digits after the ninth are dropped. -/
def takeFraction? : List Char → Option (Nat × List Char)
  | '.' :: s =>
    let ds := s.takeWhile Char.isDigit
    if ds.isEmpty then none
    else
      let nine := ds.take 9
      some (digitsValue nine * Nat.pow 10 (9 - nine.length), s.dropWhile Char.isDigit)
  | s => some (0, s)

/-- The sign of an offset: plus, hyphen or minus sign. -/
def takeOffsetSign? : List Char → Option (Bool × List Char)
  | '+' :: s => some (false, s)
  | '-' :: s => some (true, s)
  | '\u2212' :: s => some (true, s)
  | _ => none

/-- A signed offset of hours and minutes, in seconds, with `separate` between the two numbers. It
is less than a day. -/
def takeOffset? (separate : List Char → Option (List Char)) (s : List Char) :
    Option (Int × List Char) := do
  let (negative, s) ← takeOffsetSign? s
  let (hours, s) ← takeDigits? 2 s
  let s ← separate s
  let (minutes, s) ← takeDigits? 2 s
  if hours < 24 ∧ minutes < 60 then
    let seconds : Int := hours * 3600 + minutes * 60
    some (if negative then -seconds else seconds, s)
  else none

/-- The letter for UTC, or an offset. -/
def takeZone? (separate : List Char → Option (List Char)) : List Char → Option (Int × List Char)
  | 'Z' :: s => some (0, s)
  | 'z' :: s => some (0, s)
  | s => takeOffset? separate s

/-- The character between date and time. -/
def takeSeparator? : List Char → Option (List Char)
  | 'T' :: s => some s
  | 't' :: s => some s
  | ' ' :: s => some s
  | _ => none

/-- A date and time in the format of RFC 3339. -/
def readRfc3339? (s : List Char) : Option Instant := do
  let (year, s) ← takeDigits? 4 s
  let s ← expect? '-' s
  let (month, s) ← takeDigits? 2 s
  let s ← expect? '-' s
  let (day, s) ← takeDigits? 2 s
  let s ← takeSeparator? s
  let (hour, s) ← takeDigits? 2 s
  let s ← expect? ':' s
  let (minute, s) ← takeDigits? 2 s
  let s ← expect? ':' s
  let (second, s) ← takeDigits? 2 s
  let (nanos, s) ← takeFraction? s
  let (offset, s) ← takeZone? (expect? ':') s
  if s.isEmpty then ofLocal? ⟨year, month, day⟩ ⟨hour, minute, second, nanos⟩ offset else none

/-- A number after white space, of at most two digits. -/
def takeShort? (s : List Char) : Option (Nat × List Char) := takeNumber? 2 (trimStart s)

/-- A year after white space: one to four digits, or a sign and any number of digits. -/
def takeYear? (s : List Char) : Option (Int × List Char) :=
  match trimStart s with
  | '-' :: t => (takeLongNumber? t).map fun (n, t) => (-(n : Int), t)
  | '+' :: t => (takeLongNumber? t).map fun (n, t) => ((n : Int), t)
  | t => (takeNumber? 4 t).map fun (n, t) => ((n : Int), t)

/-- A date alone: its numbers may be short and may follow white space. -/
def readDate? (s : List Char) : Option Date := do
  let (year, s) ← takeYear? s
  let s ← expect? '-' s
  let (month, s) ← takeShort? s
  let s ← expect? '-' s
  let (day, s) ← takeShort? s
  if s.isEmpty then some ⟨year, month, day⟩ else none

/-- Colons and white space in any number. -/
def skipColons (s : List Char) : List Char := s.dropWhile fun c => c == ':' || isWhiteSpace c

/-- The word for UTC in any letter case, its letter, or an offset. -/
def takeNamedZone? (s : List Char) : Option (Int × List Char) :=
  if (s.take 3).map Char.toLower = ['u', 't', 'c'] then some (0, s.drop 3)
  else takeZone? (fun s => some (skipColons s)) s

/-- A date and time with short numbers and white space between the parts. -/
def readRelaxed? (s : List Char) : Option Instant := do
  let (year, s) ← takeYear? s
  let s ← expect? '-' (trimStart s)
  let (month, s) ← takeShort? s
  let s ← expect? '-' (trimStart s)
  let (day, s) ← takeShort? s
  let s ← takeSeparator? s
  let (hour, s) ← takeShort? s
  let s ← expect? ':' (trimStart s)
  let (minute, s) ← takeShort? s
  let s ← expect? ':' (trimStart s)
  let (second, s) ← takeShort? s
  let (nanos, s) ← takeFraction? s
  let (offset, s) ← takeNamedZone? (trimStart s)
  if (trimStart s).isEmpty then
    ofLocal? ⟨year, month, day⟩ ⟨hour, minute, second, nanos⟩ offset
  else none

/-- An instant as a literal gives it: RFC 3339, or a date for its midnight. -/
def ofLiteral? (s : List Char) : Option Instant :=
  (readRfc3339? s).orElse fun _ => (readDate? s).bind midnight?

end SearchFilter.Instant
