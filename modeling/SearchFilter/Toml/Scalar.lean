import SearchFilter.Date
import SearchFilter.Text.Digits
import SearchFilter.Toml

/-!
# TOML strings, numbers and dates

Readers for the values that have no parts. Every reader gives nothing if the text does not begin
with such a value.
-/

namespace SearchFilter.Toml

open Text

/-! ## Characters -/

/-- Space or tab. -/
def isSpace (c : Char) : Bool := c == ' ' || c == '\t'

def skipSpaces (s : List Char) : List Char := s.dropWhile isSpace

/-- A character that may stand in a comment or a string: no control character but the tab. -/
def isShown (c : Char) : Bool := c == '\t' || (32 ≤ c.toNat && c.toNat != 127)

/-- What follows a line break. -/
def takeNewline? : List Char → Option (List Char)
  | '\n' :: s => some s
  | '\r' :: '\n' :: s => some s
  | _ => none

/-- What follows the end of a line. -/
def takeLineEnd? : List Char → Option (List Char)
  | [] => some []
  | s => takeNewline? s

/-- What is left of a line after a comment, or all of it if no comment begins it. -/
def skipComment : List Char → List Char
  | '#' :: s => s.dropWhile isShown
  | s => s

/-- What follows a line on which nothing but a comment is left. -/
def finishLine? (s : List Char) : Option (List Char) := takeLineEnd? (skipComment (skipSpaces s))

/-! ## Strings -/

def isHexDigit (c : Char) : Bool :=
  c.isDigit || ('a' ≤ c && c ≤ 'f') || ('A' ≤ c && c ≤ 'F')

def hexDigitValue (c : Char) : Nat :=
  if c.isDigit then digitValue c
  else if 'a' ≤ c ∧ c ≤ 'f' then c.toNat - 'a'.toNat + 10
  else c.toNat - 'A'.toNat + 10

/-- The number that digits of some base denote. -/
def baseValue (base : Nat) (ds : List Char) : Nat :=
  ds.foldl (fun n d => base * n + hexDigitValue d) 0

/-- The character of a number, if it is one. -/
def charOf? (n : Nat) : Option Char :=
  if n < 0xd800 ∨ (0xe000 ≤ n ∧ n < 0x110000) then some (Char.ofNat n) else none

/-- The character of a code of `n` hexadecimal digits. -/
def takeCode? (n : Nat) (s : List Char) : Option (Char × List Char) :=
  let ds := s.take n
  if ds.length = n ∧ ds.all isHexDigit then
    (charOf? (baseValue 16 ds)).map fun c => (c, s.drop n)
  else none

/-- The character of an escape, after its backslash. -/
def takeEscape? : List Char → Option (Char × List Char)
  | 'b' :: s => some ('\x08', s)
  | 'f' :: s => some ('\x0c', s)
  | 'n' :: s => some ('\n', s)
  | 'r' :: s => some ('\r', s)
  | 't' :: s => some ('\t', s)
  | '\\' :: s => some ('\\', s)
  | '"' :: s => some ('"', s)
  | 'u' :: s => takeCode? 4 s
  | 'U' :: s => takeCode? 8 s
  | _ => none

/-- A string between quotes on one line, after the opening quote. The fuel is the length of the
text. -/
def takeBasic? : Nat → List Char → List Char → Option (List Char × List Char)
  | 0, _, _ => none
  | fuel + 1, done, s =>
    match s with
    | '"' :: t => some (done.reverse, t)
    | '\\' :: t =>
      match takeEscape? t with
      | some (c, u) => takeBasic? fuel (c :: done) u
      | none => none
    | c :: t => if isShown c then takeBasic? fuel (c :: done) t else none
    | [] => none

/-- A string between apostrophes on one line, after the opening apostrophe. -/
def takeVerbatim? (s : List Char) : Option (List Char × List Char) :=
  match s.dropWhile fun c => isShown c && c != '\'' with
  | '\'' :: rest => some (s.takeWhile fun c => isShown c && c != '\'', rest)
  | _ => none

/-- Up to two more delimiters belong to the text of a string that three of them close. -/
def closeLong (delimiter : Char) (done s : List Char) : List Char × List Char :=
  match s with
  | a :: b :: t =>
    if a = delimiter ∧ b = delimiter then ((delimiter :: delimiter :: done).reverse, t)
    else if a = delimiter then ((delimiter :: done).reverse, b :: t)
    else (done.reverse, s)
  | [a] => if a = delimiter then ((delimiter :: done).reverse, []) else (done.reverse, s)
  | [] => (done.reverse, s)

/-- What follows the line breaks, spaces and tabs of a continued line. -/
def skipLines : List Char → List Char
  | '\n' :: s => skipLines s
  | '\r' :: '\n' :: s => skipLines s
  | ' ' :: s => skipLines s
  | '\t' :: s => skipLines s
  | s => s

/-- A string between three quotes, after the opening ones. The fuel is the length of the text. -/
def takeLongBasic? : Nat → List Char → List Char → Option (List Char × List Char)
  | 0, _, _ => none
  | fuel + 1, done, s =>
    match s with
    | '"' :: '"' :: '"' :: t => some (closeLong '"' done t)
    | '\\' :: t =>
      match takeNewline? (skipSpaces t) with
      | some u => takeLongBasic? fuel done (skipLines u)
      | none =>
        match takeEscape? t with
        | some (c, u) => takeLongBasic? fuel (c :: done) u
        | none => none
    | '\r' :: '\n' :: t => takeLongBasic? fuel ('\n' :: done) t
    | c :: t => if isShown c || c == '\n' then takeLongBasic? fuel (c :: done) t else none
    | [] => none

/-- A string between three apostrophes, after the opening ones. -/
def takeLongVerbatim? (done : List Char) : List Char → Option (List Char × List Char)
  | '\'' :: '\'' :: '\'' :: t => some (closeLong '\'' done t)
  | '\r' :: '\n' :: t => takeLongVerbatim? ('\n' :: done) t
  | c :: t => if isShown c || c == '\n' then takeLongVerbatim? (c :: done) t else none
  | [] => none

/-- What follows a line break, or the text itself if none begins it. -/
def dropNewline (s : List Char) : List Char := (takeNewline? s).getD s

/-- A string of any of the four forms. -/
def takeString? : List Char → Option (List Char × List Char)
  | '"' :: '"' :: '"' :: s => takeLongBasic? (s.length + 1) [] (dropNewline s)
  | '"' :: s => takeBasic? (s.length + 1) [] s
  | '\'' :: '\'' :: '\'' :: s => takeLongVerbatim? [] (dropNewline s)
  | '\'' :: s => takeVerbatim? s
  | _ => none

/-! ## Numbers -/

/-- Digits with single underscores between them. The digits read so far are there, the last one
first. -/
def takeGrouped? (isDigit : Char → Bool) (done : List Char) :
    List Char → Option (List Char × List Char)
  | '_' :: c :: s => if isDigit c then takeGrouped? isDigit (c :: done) s else none
  | ['_'] => none
  | c :: s => if isDigit c then takeGrouped? isDigit (c :: done) s else some (done.reverse, c :: s)
  | [] => some (done.reverse, [])

/-- Digits with single underscores between them, at least one. -/
def takeDigitGroups? (isDigit : Char → Bool) : List Char → Option (List Char × List Char)
  | c :: s => if isDigit c then takeGrouped? isDigit [c] s else none
  | [] => none

/-- The digits of a decimal integer: a zero alone, or digits that do not begin with zero. -/
def takeDecimal? : List Char → Option (List Char × List Char)
  | '0' :: s => some (['0'], s)
  | s => takeDigitGroups? Char.isDigit s

/-- An integer, if it fits 64 bits. -/
def integer? (n : Int) : Option Toml :=
  if Int64.minValue.toInt ≤ n ∧ n ≤ Int64.maxValue.toInt then some (.integer n) else none

/-- An integer in another base, after its mark. -/
def takeBased? (base : Nat) (isDigit : Char → Bool) (s : List Char) :
    Option (Toml × List Char) := do
  let (ds, rest) ← takeDigitGroups? isDigit s
  let n ← integer? (baseValue base ds)
  some (n, rest)

/-- An exponent after its letter. -/
def takeExponent? (s : List Char) : Option (Int × List Char) := do
  let (negative, t) := takeSign s
  let (ds, rest) ← takeDigitGroups? Char.isDigit t
  some (if negative then -(digitsValue ds : Int) else digitsValue ds, rest)

/-- A floating-point number, unless it is too large. One too far below zero is minus infinity. -/
def float? (negative : Bool) (digits : Nat) (exponent : Int) : Option Toml :=
  let m := Binary64.nearestDecimal digits exponent
  if !negative && m == Binary64.infinityMagnitude then none
  else some (.float (.ofMagnitude negative m))

/-- The letter of an exponent. -/
def isExponentMark (c : Char) : Bool := c == 'e' || c == 'E'

/-- A number that begins with the digits of a decimal integer. -/
def takeAfterWhole? (negative : Bool) (whole : List Char) (s : List Char) :
    Option (Toml × List Char) :=
  match s with
  | '.' :: t => do
    let (fraction, rest) ← takeDigitGroups? Char.isDigit t
    let (exponent, rest) ←
      match rest with
      | c :: u => if isExponentMark c then takeExponent? u else some (0, rest)
      | [] => some (0, rest)
    let x ← float? negative (digitsValue (whole ++ fraction)) (exponent - fraction.length)
    some (x, rest)
  | c :: t =>
    if isExponentMark c then do
      let (exponent, rest) ← takeExponent? t
      let x ← float? negative (digitsValue whole) exponent
      some (x, rest)
    else plain
  | [] => plain
where
  /-- The integer of the digits. -/
  plain : Option (Toml × List Char) :=
    (integer? (if negative then -(digitsValue whole : Int) else digitsValue whole)).map (·, s)

/-- What follows a word. -/
def expectWord? (word s : List Char) : Option (List Char) :=
  if word.isPrefixOf s then some (s.drop word.length) else none

/-- Infinity or not-a-number. -/
def takeSpecial? (negative : Bool) (s : List Char) : Option (Toml × List Char) :=
  match expectWord? "inf".toList s with
  | some rest => some (.float (.infinity negative), rest)
  | none => (expectWord? "nan".toList s).map fun rest => (.float (.nan negative), rest)

/-- A number. -/
def takeNumber? (s : List Char) : Option (Toml × List Char) :=
  match s with
  | '0' :: 'x' :: t => takeBased? 16 isHexDigit t
  | '0' :: 'o' :: t => takeBased? 8 (fun c => '0' ≤ c && c ≤ '7') t
  | '0' :: 'b' :: t => takeBased? 2 (fun c => c == '0' || c == '1') t
  | _ =>
    let (negative, t) := takeSign s
    match takeSpecial? negative t with
    | some r => some r
    | none => (takeDecimal? t).bind fun (whole, rest) => takeAfterWhole? negative whole rest

/-! ## Dates and times -/

/-- Two digits for a number up to `most`. -/
def takeTwo? (most : Nat) (s : List Char) : Option (Nat × List Char) :=
  (takeDigits? 2 s).bind fun (n, rest) => if n ≤ most then some (n, rest) else none

/-- The text begins with a year and a hyphen, so a date has to follow. -/
def beginsDate (s : List Char) : Bool :=
  match takeDigits? 4 s with
  | some (_, '-' :: _) => true
  | _ => false

/-- The text begins with an hour and a colon, so a time has to follow. -/
def beginsTime (s : List Char) : Bool :=
  match takeTwo? 23 s with
  | some (_, ':' :: _) => true
  | _ => false

/-- What follows a fraction of a second, or the text itself if none begins it. -/
def skipFraction (s : List Char) : List Char :=
  match s with
  | '.' :: c :: t => if c.isDigit then t.dropWhile Char.isDigit else s
  | _ => s

/-- What follows a time of day. -/
def skipTime? (s : List Char) : Option (List Char) := do
  let (_, s) ← takeTwo? 23 s
  let s ← expect? ':' s
  let (_, s) ← takeTwo? 59 s
  let s ← expect? ':' s
  let (_, s) ← takeTwo? 60 s
  some (skipFraction s)

/-- What follows a date of the calendar. -/
def skipDate? (s : List Char) : Option (List Char) := do
  let (year, s) ← takeDigits? 4 s
  let s ← expect? '-' s
  let (month, s) ← takeDigits? 2 s
  let s ← expect? '-' s
  let (day, s) ← takeDigits? 2 s
  if (Date.mk year month day).Exists then some s else none

/-- What follows the zone of a time, or the text itself if none begins it. -/
def skipZone? (s : List Char) : Option (List Char) :=
  match s with
  | 'Z' :: t => some t
  | 'z' :: t => some t
  | c :: t =>
    if c = '+' ∨ c = '-' then do
      let (_, t) ← takeTwo? 23 t
      let t ← expect? ':' t
      let (_, t) ← takeTwo? 59 t
      some t
    else some s
  | [] => some s

/-- What follows the time of a date, or the text itself if none begins it. -/
def skipTimeOfDate? (s : List Char) : Option (List Char) :=
  match s with
  | c :: t =>
    if (c = 'T' ∨ c = 't' ∨ c = ' ') ∧ beginsTime t then (skipTime? t).bind skipZone? else some s
  | [] => some s

/-- A date, a time or both, or a number. -/
def takeNumeric? (s : List Char) : Option (Toml × List Char) :=
  if beginsDate s then do
    let rest ← (skipDate? s).bind skipTimeOfDate?
    some (.datetime (s.take (s.length - rest.length)), rest)
  else if beginsTime s then do
    let rest ← skipTime? s
    some (.datetime (s.take (s.length - rest.length)), rest)
  else takeNumber? s

/-- A value without parts. -/
def takeScalar? (s : List Char) : Option (Toml × List Char) :=
  match s with
  | '"' :: _ => (takeString? s).map fun (t, rest) => (.string t, rest)
  | '\'' :: _ => (takeString? s).map fun (t, rest) => (.string t, rest)
  | 't' :: _ => (expectWord? "true".toList s).map fun rest => (.boolean true, rest)
  | 'f' :: _ => (expectWord? "false".toList s).map fun rest => (.boolean false, rest)
  | _ => takeNumeric? s

end SearchFilter.Toml
