import SearchFilter.Condition

/-!
# Walking a condition

Each walk keeps a list of what is left to do, so that its depth is that of no tree. `tokens` lists
the tokens of a condition, `leafCount` counts its comparisons, `same` compares two conditions and
`copy` takes a condition apart and puts it together again.
-/

namespace SearchFilter.Condition

/-! ## Tokens -/

/-- What is left to do while tokens are listed. -/
inductive Task where
  | visit (c : Condition)
  | emit (t : Token)

namespace Task

/-- A bound on the steps that a task takes. -/
def weight : Task → Nat
  | .visit c => 3 * c.size
  | .emit _ => 1

/-- A bound on the steps that some tasks take. -/
def totalWeight : List Task → Nat
  | [] => 0
  | t :: ts => t.weight + totalWeight ts

/-- Carry out tasks in order. The tokens listed so far come last first. -/
def run : List Task → List Token → List Token
  | [], done => done.reverse
  | .emit t :: tasks, done => run tasks (t :: done)
  | .visit (.leaf c) :: tasks, done => run tasks (c.tokens.reverse ++ done)
  | .visit (.node l join r) :: tasks, done =>
    run (.visit l :: .emit join.token :: .visit r :: .emit .rightParen :: tasks)
      (.leftParen :: done)
termination_by tasks => totalWeight tasks
decreasing_by all_goals simp only [totalWeight, weight, size]; omega

end Task

/-- The tokens of a condition. Every node stands in parentheses. -/
def tokens (c : Condition) : List Token := Task.run [.visit c] []

/-- A condition as its tokens show it. -/
def display (c : Condition) : String :=
  "Boolean[" ++ " ".intercalate (c.tokens.map Token.display) ++ "]"

/-! ## Leaves -/

/-- Count the comparisons of some conditions. -/
def countLeaves : List Condition → Nat → Nat
  | [], n => n
  | .leaf _ :: cs, n => countLeaves cs (n + 1)
  | .node l _ r :: cs, n => countLeaves (l :: r :: cs) n
termination_by cs => totalSize cs
decreasing_by all_goals simp only [totalSize, size]; omega

/-- The number of comparisons. -/
def leafCount (c : Condition) : Nat := countLeaves [c] 0

/-! ## Equality -/

/-- Compare conditions pair by pair. -/
def samePairs : List (Condition × Condition) → Bool
  | [] => true
  | (.leaf c, .leaf d) :: ps => c.same d && samePairs ps
  | (.node l j r, .node l' j' r') :: ps => j == j' && samePairs ((l, l') :: (r, r') :: ps)
  | (.leaf _, .node ..) :: _ => false
  | (.node .., .leaf _) :: _ => false
termination_by ps => totalSize (ps.map Prod.fst)
decreasing_by all_goals simp only [List.map_cons, totalSize, size]; omega

/-- Equality of conditions: the same shape, and the same comparisons in it. -/
def same (c d : Condition) : Bool := samePairs [(c, d)]

/-! ## Rebuilding -/

/-- What is left to do while a condition is rebuilt. -/
inductive Rebuild where
  | visit (c : Condition)
  | combine (join : Conjunction)

namespace Rebuild

/-- A bound on the steps that a task takes. -/
def weight : Rebuild → Nat
  | .visit c => 2 * c.size
  | .combine _ => 1

/-- A bound on the steps that some tasks take. -/
def totalWeight : List Rebuild → Nat
  | [] => 0
  | t :: ts => t.weight + totalWeight ts

/-- Carry out tasks in order over a stack of rebuilt conditions, the last one first. A combination
takes its operands from the stack; there is no result if they are not there. -/
def run : List Rebuild → List Condition → Option (List Condition)
  | [], built => some built
  | .visit (.leaf c) :: tasks, built => run tasks (.leaf c :: built)
  | .visit (.node l join r) :: tasks, built =>
    run (.visit l :: .visit r :: .combine join :: tasks) built
  | .combine join :: tasks, r :: l :: built => run tasks (.node l join r :: built)
  | .combine _ :: _, [_] => none
  | .combine _ :: _, [] => none
termination_by tasks => totalWeight tasks
decreasing_by all_goals simp only [totalWeight, weight, size]; omega

end Rebuild

/-- A comparison that belongs to no condition. -/
def detached : Condition := .compare (.plain "") .eq .null

/-- A condition put together anew from the leaves and nodes of another. -/
def copy (c : Condition) : Condition :=
  match Rebuild.run [.visit c] [] with
  | some (d :: _) => d
  | _ => detached

end SearchFilter.Condition
