import SearchFilter.Token

/-!
# Statements

A statement is SQL text with numbered placeholders, and the values of the placeholders in order.
`Statement.ofTokens` writes one word for each token, except that a table, the dot and the column
after it are one word, and puts one space between words.
-/

namespace SearchFilter

/-- SQL text and the values of its placeholders `$1`, `$2`, …. -/
structure Statement where
  sql : String
  params : List Value
deriving DecidableEq, Inhabited

/-- A name between double quotes. -/
def quoteName (name : String) : String := "\"" ++ name ++ "\""

/-- The placeholder of the `n`-th parameter, counted from 1. -/
def placeholder (n : Nat) : String := "$" ++ String.ofList (Text.decimalDigits n)

/-- A statement in the making. -/
structure Rendering where
  /-- The words written so far. -/
  words : Array String
  /-- The values of the placeholders written so far. -/
  params : Array Value
  /-- What a table has put in front of its column. -/
  qualifier : String
deriving Inhabited

namespace Rendering

def empty : Rendering := ⟨#[], #[], ""⟩

/-- Write one token. The dot after a table is written with the table. -/
def push (r : Rendering) : Token → Rendering
  | .table n => { r with qualifier := r.qualifier ++ quoteName n ++ "." }
  | .column n => { r with words := r.words.push (r.qualifier ++ quoteName n), qualifier := "" }
  | .placeholder v =>
    { r with words := r.words.push (placeholder (r.params.size + 1)), params := r.params.push v }
  | .dot => if r.qualifier.isEmpty then { r with words := r.words.push "." } else r
  | t => { r with words := r.words.push (t.literal?.getD "") }

/-- The finished statement. -/
def statement (r : Rendering) : Statement := ⟨" ".intercalate r.words.toList, r.params.toList⟩

end Rendering

namespace Statement

/-- The statement of a list of tokens. -/
def ofTokens (ts : List Token) : Statement := (ts.foldl Rendering.push .empty).statement

end Statement

end SearchFilter
