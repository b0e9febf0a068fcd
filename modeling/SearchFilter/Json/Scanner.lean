import SearchFilter.Json.Number
import SearchFilter.Text.Blank

/-!
# Scanning JSON

The items of a JSON text, read from its front. Every reader gives nothing if the text does not
begin with such an item. `takeString?` reads a string with its escapes, and `skipValue?` passes
over a whole value in one of two ways: `strict` wants every string and number to have a value and
limits the nesting, `lenient` only looks at their form.
-/

namespace SearchFilter.Json

open Text

/-- Why a text is not the value that was asked for. -/
inductive Fault where
  /-- The text is not JSON. -/
  | malformed
  /-- The text holds some other value. -/
  | mismatch
deriving DecidableEq, Repr

/-! ## Strings -/

/-- The number of a hexadecimal digit. -/
def hexValue? (c : Char) : Option Nat :=
  if '0' ≤ c ∧ c ≤ '9' then some (c.toNat - '0'.toNat)
  else if 'a' ≤ c ∧ c ≤ 'f' then some (c.toNat - 'a'.toNat + 10)
  else if 'A' ≤ c ∧ c ≤ 'F' then some (c.toNat - 'A'.toNat + 10)
  else none

/-- The number of four hexadecimal digits. -/
def hexValue4? (a b c d : Char) : Option Nat := do
  let a ← hexValue? a
  let b ← hexValue? b
  let c ← hexValue? c
  let d ← hexValue? d
  some (((a * 16 + b) * 16 + c) * 16 + d)

/-- The character of a short escape. -/
def shortEscape? : Char → Option Char
  | '"' => some '"'
  | '\\' => some '\\'
  | '/' => some '/'
  | 'b' => some '\x08'
  | 'f' => some '\x0c'
  | 'n' => some '\n'
  | 'r' => some '\r'
  | 't' => some '\t'
  | _ => none

/-- The character of a pair of surrogates. -/
def surrogatePair? (high low : Nat) : Option Char :=
  if 0xd800 ≤ high ∧ high < 0xdc00 ∧ 0xdc00 ≤ low ∧ low < 0xe000 then
    some (Char.ofNat (0x10000 + (high - 0xd800) * 0x400 + (low - 0xdc00)))
  else none

/-- The rest of a string after its opening quote, with its characters. The ones read so far are
there, the last one first. -/
def takeStringRest? (done : List Char) : List Char → Option (List Char × List Char)
  | '"' :: s => some (done.reverse, s)
  | '\\' :: 'u' :: a :: b :: c :: d :: '\\' :: 'u' :: a' :: b' :: c' :: d' :: s =>
    match hexValue4? a b c d with
    | none => none
    | some n =>
      if n < 0xd800 ∨ 0xe000 ≤ n then
        takeStringRest? (Char.ofNat n :: done) ('\\' :: 'u' :: a' :: b' :: c' :: d' :: s)
      else
        match (hexValue4? a' b' c' d').bind (surrogatePair? n) with
        | none => none
        | some ch => takeStringRest? (ch :: done) s
  | '\\' :: 'u' :: a :: b :: c :: d :: s =>
    match hexValue4? a b c d with
    | none => none
    | some n =>
      if n < 0xd800 ∨ 0xe000 ≤ n then takeStringRest? (Char.ofNat n :: done) s else none
  | '\\' :: c :: s =>
    match shortEscape? c with
    | none => none
    | some ch => takeStringRest? (ch :: done) s
  | c :: s => if c.toNat < 32 ∨ c = '\\' then none else takeStringRest? (c :: done) s
  | [] => none
termination_by s => s.length
decreasing_by all_goals simp <;> omega

/-- A string at the start of a text. -/
def takeString? : List Char → Option (List Char × List Char)
  | '"' :: s => takeStringRest? [] s
  | _ => none

/-- What follows a string, given what follows its opening quote. Escapes need not name a
character. -/
def skipStringRest? : List Char → Option (List Char)
  | '"' :: s => some s
  | '\\' :: 'u' :: a :: b :: c :: d :: s =>
    if (hexValue4? a b c d).isSome then skipStringRest? s else none
  | '\\' :: c :: s => if (shortEscape? c).isSome then skipStringRest? s else none
  | c :: s => if c.toNat < 32 ∨ c = '\\' then none else skipStringRest? s
  | [] => none

/-! ## Values -/

/-- What follows a word. -/
def expectWord? (word s : List Char) : Option (List Char) :=
  if word.isPrefixOf s then some (s.drop word.length) else none

/-- How closely a value is looked at while it is passed over. -/
inductive Care where
  | strict
  | lenient
deriving DecidableEq, Repr

/-- What follows a string at the start of a text. -/
def skipString? : Care → List Char → Option (List Char)
  | .strict, s => (takeString? s).map (·.2)
  | .lenient, '"' :: s => skipStringRest? s
  | .lenient, _ => none

/-- What follows a number at the start of a text. -/
def skipNumber? : Care → List Char → Option (List Char)
  | .strict, s => (takeNumber? s).map (·.2)
  | .lenient, s => (takeNumberText? s).map (·.2)

/-- What follows a value without parts at the start of a text. -/
def skipScalar? (care : Care) (s : List Char) : Option (List Char) :=
  match s with
  | 'n' :: _ => expectWord? "null".toList s
  | 't' :: _ => expectWord? "true".toList s
  | 'f' :: _ => expectWord? "false".toList s
  | '"' :: _ => skipString? care s
  | _ => skipNumber? care s

/-- A value that is not closed yet. -/
inductive Frame where
  | array
  | object
deriving DecidableEq, Repr

/-- How deep values may be nested. -/
def depthLimit : Care → Option Nat
  | .strict => some 127
  | .lenient => none

/-- Whether a further value may be opened. -/
def mayOpen (care : Care) (frames : List Frame) : Bool :=
  match depthLimit care with
  | some n => frames.length < n
  | none => true

/-- What follows the key of a member and its colon. -/
def skipKey? (care : Care) (s : List Char) : Option (List Char) := do
  let s ← skipString? care (skipBlanks s)
  expect? ':' (skipBlanks s)

mutual

/-- Pass over a value inside some open ones, and over what closes them. Every step takes a
character, so the fuel of a text is twice its length. -/
def skipOpen? (care : Care) : Nat → List Frame → List Char → Option (List Char)
  | 0, _, _ => none
  | fuel + 1, frames, s =>
    match skipBlanks s with
    | '[' :: t =>
      if mayOpen care frames then
        match skipBlanks t with
        | ']' :: u => skipClosed? care fuel frames u
        | u => skipOpen? care fuel (.array :: frames) u
      else none
    | '{' :: t =>
      if mayOpen care frames then
        match skipBlanks t with
        | '}' :: u => skipClosed? care fuel frames u
        | u =>
          match skipKey? care u with
          | some v => skipOpen? care fuel (.object :: frames) v
          | none => none
      else none
    | t =>
      match skipScalar? care t with
      | some u => skipClosed? care fuel frames u
      | none => none

/-- Go on after a value inside some open ones. -/
def skipClosed? (care : Care) : Nat → List Frame → List Char → Option (List Char)
  | 0, _, _ => none
  | _ + 1, [], s => some s
  | fuel + 1, frame :: frames, s =>
    match frame, skipBlanks s with
    | .array, ',' :: t => skipOpen? care fuel (.array :: frames) t
    | .array, ']' :: t => skipClosed? care fuel frames t
    | .object, ',' :: t =>
      match skipKey? care t with
      | some u => skipOpen? care fuel (.object :: frames) u
      | none => none
    | .object, '}' :: t => skipClosed? care fuel frames t
    | _, _ => none

end

/-- What follows a value at the start of a text. -/
def skipValue? (care : Care) (s : List Char) : Option (List Char) :=
  skipOpen? care (2 * s.length + 2) [] s

/-! ## Values of a wanted kind -/

/-- A value where another kind was wanted: the text is at fault if not even a value without parts
is there. -/
def otherKind (s : List Char) : Fault :=
  match s with
  | '[' :: _ => .mismatch
  | '{' :: _ => .mismatch
  | _ => if (skipScalar? .strict s).isSome then .mismatch else .malformed

/-- A string, after blanks. -/
def wantString (s : List Char) : Except Fault (List Char × List Char) :=
  match skipBlanks s with
  | '"' :: t =>
    match takeStringRest? [] t with
    | some r => .ok r
    | none => .error .malformed
  | t => .error (otherKind t)

/-- An integer, after blanks. -/
def wantInt (s : List Char) : Except Fault (Int × List Char) :=
  let t := skipBlanks s
  match takeNumber? t with
  | some (.int n, rest) => .ok (n, rest)
  | _ => .error (otherKind t)

/-- Nothing but blanks is left. -/
def wantEnd (s : List Char) : Except Fault Unit :=
  if (skipBlanks s).isEmpty then .ok () else .error .malformed

end SearchFilter.Json
