import SearchFilter.Value

/-!
# Tokens

Conditions and sorters become a flat list of tokens, and the list becomes the text of a statement.
-/

namespace SearchFilter

/-- An item of a statement. The first sixteen stand for fixed text, the last three carry data. -/
inductive Token where
  | leftParen
  | rightParen
  | eq
  | neq
  | lt
  | lte
  | gt
  | gte
  | comma
  | dot
  | and
  | or
  | where
  | orderBy
  | ascending
  | descending
  | table (name : String)
  | column (name : String)
  | placeholder (value : Value)
deriving DecidableEq, Inhabited

namespace Token

/-- The fixed text of a token that carries no data. -/
def literal? : Token → Option String
  | .leftParen => some "("
  | .rightParen => some ")"
  | .eq => some "="
  | .neq => some "!="
  | .lt => some "<"
  | .lte => some "<="
  | .gt => some ">"
  | .gte => some ">="
  | .comma => some ","
  | .dot => some "."
  | .and => some "AND"
  | .or => some "OR"
  | .where => some "WHERE"
  | .orderBy => some "ORDER BY"
  | .ascending => some "ASC"
  | .descending => some "DESC"
  | .table _ | .column _ | .placeholder _ => none

/-- The token carries data. -/
def isCarrier (t : Token) : Bool := t.literal?.isNone

/-- A token as it is shown to people. -/
def display : Token → String
  | .table n => "Table(" ++ n ++ ")"
  | .column n => "Column(" ++ n ++ ")"
  | .placeholder v => "Placeholder(" ++ v.display ++ ")"
  | t => t.literal?.getD ""

/-- Equality of tokens, with placeholders compared as values. -/
def same : Token → Token → Bool
  | .placeholder v, .placeholder w => v.same w
  | s, t => decide (s = t)

end Token

namespace Column

/-- A plain column is one token, a qualified one is three. -/
def tokens (c : Column) : List Token :=
  match c.table with
  | none => [.column c.name]
  | some t => [.table t, .dot, .column c.name]

end Column

end SearchFilter
