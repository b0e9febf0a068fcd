import SearchFilter.Binary64.Text

/-!
# Writing JSON

A small tree for the JSON that is written, with a compact and an indented layout.
-/

namespace SearchFilter

/-- A JSON value to be written. -/
inductive Json where
  | null
  | bool (b : Bool)
  | int (n : Int)
  | float (x : Binary64)
  | string (s : String)
  | array (items : List Json)
  | object (members : List (String × Json))

namespace Json

/-- A hexadecimal digit in lower case. -/
def hexDigit (n : Nat) : Char := (Nat.digitChar (n % 16))

/-- How a character stands in a string: with a short escape if it has one, as `\u00xx` if it is
another control character, and as itself otherwise. -/
def escape (c : Char) : List Char :=
  match c with
  | '"' => ['\\', '"']
  | '\\' => ['\\', '\\']
  | '\n' => ['\\', 'n']
  | '\t' => ['\\', 't']
  | '\r' => ['\\', 'r']
  | '\x08' => ['\\', 'b']
  | '\x0c' => ['\\', 'f']
  | c =>
    if c.toNat < 32 then ['\\', 'u', '0', '0', hexDigit (c.toNat / 16), hexDigit c.toNat] else [c]

/-- The characters of a string between quotes. -/
def quotedChars (s : List Char) : List Char := '"' :: s.flatMap escape ++ ['"']

/-- A string between quotes. -/
def quoted (s : String) : String := String.ofList (quotedChars s.toList)

/-- The text of a value that has no parts. Infinities and not-a-number have no number in JSON. -/
def scalarText : Json → String
  | .null => "null"
  | .bool b => if b then "true" else "false"
  | .int n => Text.integerText n
  | .float x => if x.isFinite then x.text .interchange else "null"
  | .string s => quoted s
  | .array _ => "[]"
  | .object _ => "\x7b\x7d"

mutual

/-- The text of a value without white space. -/
def compact : Json → String
  | .array items => "[" ++ ",".intercalate (compactItems items) ++ "]"
  | .object members => "\x7b" ++ ",".intercalate (compactMembers members) ++ "\x7d"
  | v => v.scalarText

def compactItems : List Json → List String
  | [] => []
  | v :: vs => v.compact :: compactItems vs

def compactMembers : List (String × Json) → List String
  | [] => []
  | (k, v) :: ms => (quoted k ++ ":" ++ v.compact) :: compactMembers ms

end

/-- A new line at some depth. -/
def newline (depth : Nat) : String := "\n" ++ String.ofList (List.replicate (2 * depth) ' ')

mutual

/-- The text of a value with every part on a line of its own. -/
def pretty (depth : Nat) : Json → String
  | .array [] => "[]"
  | .object [] => "\x7b\x7d"
  | .array items =>
    "[" ++ newline (depth + 1) ++
      ("," ++ newline (depth + 1)).intercalate (prettyItems (depth + 1) items) ++
      newline depth ++ "]"
  | .object members =>
    "\x7b" ++ newline (depth + 1) ++
      ("," ++ newline (depth + 1)).intercalate (prettyMembers (depth + 1) members) ++
      newline depth ++ "\x7d"
  | v => v.scalarText

def prettyItems (depth : Nat) : List Json → List String
  | [] => []
  | v :: vs => v.pretty depth :: prettyItems depth vs

def prettyMembers (depth : Nat) : List (String × Json) → List String
  | [] => []
  | (k, v) :: ms => (quoted k ++ ": " ++ v.pretty depth) :: prettyMembers depth ms

end

end Json

end SearchFilter
