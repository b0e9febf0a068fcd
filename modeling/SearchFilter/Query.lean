import SearchFilter.Condition.Walk
import SearchFilter.Failure
import SearchFilter.Statement

/-!
# Queries

A query is a condition with an optional order of its results.
-/

namespace SearchFilter

/-- The direction of an order. -/
inductive SortOrder where
  | ascending
  | descending
deriving DecidableEq, Repr, Inhabited

def SortOrder.token : SortOrder → Token
  | .ascending => .ascending
  | .descending => .descending

/-- An order by one column. -/
structure Sorter where
  column : Column
  order : SortOrder
deriving DecidableEq, Repr, Inhabited

def Sorter.tokens (s : Sorter) : List Token := .orderBy :: s.column.tokens ++ [s.order.token]

/-- A condition and the order of the rows that meet it. -/
structure Query where
  condition : Condition
  sorter : Option Sorter
deriving DecidableEq, Inhabited

namespace Query

/-- A query without an order. -/
def ofCondition (c : Condition) : Query := ⟨c, none⟩

/-- A query of a condition that has to be there, since none holds for all rows. -/
def ofCondition? (c : Option Condition) : Except Failure Query :=
  match c with
  | some c => .ok (ofCondition c)
  | none => .error .missingExpression

/-- Sort the rows, in place of any earlier order. -/
def sortBy (q : Query) (s : Sorter) : Query := { q with sorter := some s }

/-- Take away the order. -/
def unsorted (q : Query) : Query := { q with sorter := none }

/-- The tokens of the condition and then those of the order. -/
def tokens (q : Query) : List Token :=
  q.condition.tokens ++ (q.sorter.map Sorter.tokens).getD []

/-- The WHERE and ORDER BY fragment of a query, with its parameters. -/
def build (q : Query) : Statement := .ofTokens q.tokens

/-- Equality of queries, with values compared as values. -/
def same (q p : Query) : Bool := q.condition.same p.condition && q.sorter == p.sorter

end Query

end SearchFilter
