import SearchFilter.Token

/-!
# Conditions

A condition is a binary tree of comparisons joined by `AND` and `OR`. A long fold is as deep as it
is wide, so what runs on conditions (`tokens`, `leafCount`, `same`) is in `Condition.Walk` and
keeps its own stack; here are the type, its folds and the functions that follow the tree.
-/

namespace SearchFilter

/-- How a comparison compares. -/
inductive Comparator where
  | eq
  | neq
  | lt
  | lte
  | gt
  | gte
deriving DecidableEq, Repr, Inhabited

def Comparator.token : Comparator → Token
  | .eq => .eq
  | .neq => .neq
  | .lt => .lt
  | .lte => .lte
  | .gt => .gt
  | .gte => .gte

/-- How two conditions are joined. -/
inductive Conjunction where
  | and
  | or
deriving DecidableEq, Repr, Inhabited

def Conjunction.token : Conjunction → Token
  | .and => .and
  | .or => .or

/-- A column compared with a value. -/
structure Comparison where
  column : Column
  op : Comparator
  value : Value
deriving DecidableEq, Inhabited

namespace Comparison

def tokens (c : Comparison) : List Token := c.column.tokens ++ [c.op.token, .placeholder c.value]

/-- Equality of comparisons, with values compared as values. -/
def same (c d : Comparison) : Bool := c.column == d.column && c.op == d.op && c.value.same d.value

end Comparison

/-- A tree of comparisons. -/
inductive Condition where
  | leaf (c : Comparison)
  | node (left : Condition) (join : Conjunction) (right : Condition)
deriving DecidableEq, Inhabited

namespace Condition

def and (l r : Condition) : Condition := .node l .and r

def or (l r : Condition) : Condition := .node l .or r

/-- The comparison of a column with a value. -/
def compare (column : Column) (op : Comparator) (value : Value) : Condition :=
  .leaf ⟨column, op, value⟩

/-- Join conditions from the left. There is no condition that always holds, so joining none gives
none. -/
def join? (join : Conjunction) : List Condition → Option Condition
  | [] => none
  | c :: cs => some (cs.foldl (fun l r => .node l join r) c)

/-- Join conditions from the left with `AND`. -/
def all? : List Condition → Option Condition := join? .and

/-- Join conditions from the left with `OR`. -/
def any? : List Condition → Option Condition := join? .or

@[simp] theorem join?_eq_none_iff {join : Conjunction} {cs : List Condition} :
    join? join cs = none ↔ cs = [] := by
  cases cs <;> simp [join?]

/-- The comparisons of a condition from left to right. -/
def leaves : Condition → List Comparison
  | .leaf c => [c]
  | .node l _ r => l.leaves ++ r.leaves

theorem leaves_ne_nil (c : Condition) : c.leaves ≠ [] := by
  induction c with
  | leaf c => exact List.cons_ne_nil c []
  | node l join r ihl ihr => exact List.append_ne_nil_of_left_ne_nil ihl r.leaves

/-- The number of nodes and leaves. -/
def size : Condition → Nat
  | .leaf _ => 1
  | .node l _ r => l.size + r.size + 1

/-- The number of nodes and leaves of some conditions. -/
def totalSize : List Condition → Nat
  | [] => 0
  | c :: cs => c.size + totalSize cs

end Condition

end SearchFilter
