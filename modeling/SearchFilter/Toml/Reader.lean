import SearchFilter.Toml.Scalar

/-!
# Reading TOML

`Toml.read?` gives the entries of a document, or nothing if the text is not TOML 1.0: its form is
wrong, a key is given twice or a number does not fit.
-/

namespace SearchFilter.Toml

open Text

/-! ## Keys -/

/-- A character of a key without quotes: an ASCII letter or digit, a hyphen or an underscore. -/
def isKeyChar (c : Char) : Bool := c.isAlphanum || c == '-' || c == '_'

/-- One part of a key. -/
def takeSimpleKey? (s : List Char) : Option (Key × List Char) :=
  match s with
  | '"' :: t => takeBasic? (t.length + 1) [] t
  | '\'' :: t => takeVerbatim? t
  | _ =>
    match s.takeWhile isKeyChar with
    | [] => none
    | k => some (k, s.dropWhile isKeyChar)

/-- The parts of a key after the first. The ones read so far are there, the last one first. Every
part takes a character, so the fuel of a text is its length. -/
def takeKeyRest? : Nat → List Key → List Char → Option (List Key × List Char)
  | 0, _, _ => none
  | fuel + 1, done, s =>
    match skipSpaces s with
    | '.' :: t =>
      match takeSimpleKey? (skipSpaces t) with
      | some (k, u) => takeKeyRest? fuel (k :: done) u
      | none => none
    | t => some (done.reverse, t)

/-- How many arrays and tables may be nested, and how many parts a key may have. -/
def depthLimit : Nat := 80

/-- A key with dots between its parts, and the spaces around it. -/
def takeKey? (s : List Char) : Option (List Key × List Char) := do
  let (k, t) ← takeSimpleKey? (skipSpaces s)
  let (path, rest) ← takeKeyRest? (t.length + 1) [k] t
  if path.length < depthLimit then some (path, rest) else none

/-! ## Values -/

/-- What follows spaces, line breaks and comments. Every round takes a character, so the fuel of a
text is its length. -/
def skipLayout : Nat → List Char → List Char
  | 0, s => s
  | fuel + 1, s =>
    match skipSpaces s with
    | '#' :: t =>
      match takeNewline? (t.dropWhile isShown) with
      | some u => skipLayout fuel u
      | none => t.dropWhile isShown
    | t =>
      match takeNewline? t with
      | some u => skipLayout fuel u
      | none => t

/-- Spaces, line breaks and comments between the items of an array. -/
def skipLayoutOf (s : List Char) : List Char := skipLayout (s.length + 1) s

mutual

/-- A value inside so many arrays and tables. Every step takes a character, so the fuel of a text
is twice its length. -/
def takeValue? : Nat → Nat → List Char → Option (Toml × List Char)
  | 0, _, _ => none
  | fuel + 1, depth, s =>
    match s with
    | '[' :: t => if depth + 1 < depthLimit then takeItems? fuel (depth + 1) [] t else none
    | '{' :: t =>
      if depth + 1 < depthLimit then
        match skipSpaces t with
        | '}' :: u => some (.inline [], u)
        | u => takeEntries? fuel (depth + 1) (.empty .header) u
      else none
    | _ => takeScalar? s

/-- The items of an array, after its bracket or a comma. -/
def takeItems? : Nat → Nat → List Toml → List Char → Option (Toml × List Char)
  | 0, _, _, _ => none
  | fuel + 1, depth, done, s =>
    match skipLayoutOf s with
    | ']' :: t => some (.array done.reverse, t)
    | t =>
      match takeValue? fuel depth t with
      | none => none
      | some (v, u) =>
        match skipLayoutOf u with
        | ',' :: w => takeItems? fuel depth (v :: done) w
        | ']' :: w => some (.array (v :: done).reverse, w)
        | _ => none

/-- The entries of a table between braces, after its brace or a comma. -/
def takeEntries? : Nat → Nat → Table → List Char → Option (Toml × List Char)
  | 0, _, _, _ => none
  | fuel + 1, depth, owner, s =>
    match takeKey? s with
    | some (path, '=' :: t) =>
      match takeValue? fuel depth (skipSpaces t) with
      | none => none
      | some (v, u) =>
        match (splitPath? path).bind fun (parents, k) => owner.define? parents k v with
        | none => none
        | some owner =>
          match skipSpaces u with
          | ',' :: w => takeEntries? fuel depth owner w
          | '}' :: w => some (.inline owner.entries, w)
          | _ => none
    | _ => none

end

/-! ## Documents -/

/-- A key and its value on a line. -/
def takeLine? (d : Draft) (s : List Char) : Option (Draft × List Char) := do
  let (path, s) ← takeKey? s
  let s ← expect? '=' s
  let t := skipSpaces s
  let (v, s) ← takeValue? (2 * t.length + 2) 0 t
  let s ← finishLine? s
  let (parents, k) ← splitPath? path
  let d ← d.define? parents k v
  some (d, s)

/-- A header, after its first bracket. -/
def takeHeader? (d : Draft) (s : List Char) : Option (Draft × List Char) :=
  match s with
  | '[' :: t => do
    let (path, t) ← takeKey? t
    let t ← expectWord? "]]".toList t
    let t ← finishLine? t
    let d ← d.openElement? path
    some (d, t)
  | _ => do
    let (path, s) ← takeKey? s
    let s ← expect? ']' s
    let s ← finishLine? s
    let d ← d.openTable? path
    some (d, s)

/-- The rest of a document. Every line takes a character, so the fuel of a text is its length. -/
def readLines? : Nat → Draft → List Char → Option Table
  | 0, _, _ => none
  | fuel + 1, d, s =>
    match skipSpaces s with
    | [] => d.close?
    | '#' :: t => (takeLineEnd? (t.dropWhile isShown)).bind (readLines? fuel d)
    | '\n' :: t => readLines? fuel d t
    | '\r' :: '\n' :: t => readLines? fuel d t
    | '[' :: t => (takeHeader? d t).bind fun (d, rest) => readLines? fuel d rest
    | t => (takeLine? d t).bind fun (d, rest) => readLines? fuel d rest

/-- The text without a byte order mark before it. -/
def dropMark : List Char → List Char
  | '\ufeff' :: s => s
  | s => s

/-- The entries of a document. -/
def read? (s : List Char) : Option Entries :=
  let t := dropMark s
  (readLines? (t.length + 1) .empty t).map Table.entries

end SearchFilter.Toml
