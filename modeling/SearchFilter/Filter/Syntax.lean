import SearchFilter.Condition

/-!
# Filters

A filter is the tree of a filter text before its names and literals are looked at. A chain of one
conjunction is one flat list, so a filter is only as deep as its parentheses.
-/

namespace SearchFilter

/-- A literal as it is written. -/
inductive Filter.Literal where
  /-- The text between single quotes. -/
  | quoted (text : List Char)
  /-- A word without quotes. -/
  | bare (word : List Char)
deriving DecidableEq, Repr, Inhabited

/-- A comparison as it is written. -/
structure Filter.Clause where
  name : List Char
  op : Comparator
  literal : Filter.Literal
  /-- What is left of the text where the literal begins. -/
  tail : List Char
deriving DecidableEq, Repr, Inhabited

/-- The tree of a filter text. -/
inductive Filter where
  | clause (c : Filter.Clause)
  | all (items : List Filter)
  | any (items : List Filter)
deriving Repr, Inhabited

namespace Filter

/-- What a literal says, without its quotes. -/
def Literal.word : Literal → List Char
  | .quoted t => t
  | .bare w => w

/-- A chain of one conjunction: a single item stands for itself. -/
def chain (join : Conjunction) : List Filter → Filter
  | [f] => f
  | fs => match join with
    | .and => .all fs
    | .or => .any fs

@[simp] theorem chain_singleton (join : Conjunction) (f : Filter) : chain join [f] = f := rfl

mutual

/-- The comparisons of a filter from left to right. -/
def clauses : Filter → List Clause
  | .clause c => [c]
  | .all fs => clausesOf fs
  | .any fs => clausesOf fs

/-- The comparisons of some filters from left to right. -/
def clausesOf : List Filter → List Clause
  | [] => []
  | f :: fs => f.clauses ++ clausesOf fs

end

mutual

/-- How deep chains are nested. -/
def depth : Filter → Nat
  | .clause _ => 0
  | .all fs => depthOf fs + 1
  | .any fs => depthOf fs + 1

/-- The depth of the deepest of some filters. -/
def depthOf : List Filter → Nat
  | [] => 0
  | f :: fs => max f.depth (depthOf fs)

end

end Filter

end SearchFilter
