import SearchFilter.Condition.Walk

/-!
# What the walks compute

The walks over conditions keep their own stack. Here their laws are stated for an arbitrary stack,
and from them the equations that follow the tree: those of `tokens` and those of `leafCount`.
-/

namespace SearchFilter.Condition

/-! ## Tokens -/

/-- The tokens of a condition, by recursion on the tree. -/
def tokensRec : Condition → List Token
  | .leaf c => c.tokens
  | .node l join r => .leftParen :: (l.tokensRec ++ join.token :: (r.tokensRec ++ [.rightParen]))

/-- The tokens that a task lists. -/
def Task.tokens : Task → List Token
  | .visit c => c.tokensRec
  | .emit t => [t]

/-- A stack of tasks lists the tokens of its tasks in order, after those listed so far. -/
theorem Task.run_eq (tasks : List Task) (done : List Token) :
    Task.run tasks done = done.reverse ++ tasks.flatMap Task.tokens := by
  fun_induction Task.run tasks done with
  | case1 done => simp
  | case2 t tasks done ih => simp [ih, Task.tokens]
  | case3 c tasks done ih => simp [ih, Task.tokens, tokensRec]
  | case4 l join r tasks done ih => simp [ih, Task.tokens, tokensRec]

theorem tokens_eq_tokensRec (c : Condition) : c.tokens = c.tokensRec := by
  simp [tokens, Task.run_eq, Task.tokens]

@[simp] theorem tokens_leaf (c : Comparison) : (leaf c).tokens = c.tokens := by
  rw [tokens_eq_tokensRec]; rfl

@[simp] theorem tokens_node (l r : Condition) (join : Conjunction) :
    (node l join r).tokens =
      .leftParen :: (l.tokens ++ join.token :: (r.tokens ++ [.rightParen])) := by
  simp only [tokens_eq_tokensRec, tokensRec]

/-! ## Leaves -/

/-- The leaves on a stack are added to those counted so far. -/
theorem countLeaves_eq (cs : List Condition) (n : Nat) :
    countLeaves cs n = n + (cs.flatMap leaves).length := by
  fun_induction countLeaves cs n with
  | case1 n => rfl
  | case2 c cs n ih =>
    rw [ih, List.flatMap_cons, leaves, List.singleton_append, List.length_cons]
    omega
  | case3 l join r cs n ih => simp [ih, leaves]

theorem leafCount_eq_length_leaves (c : Condition) : c.leafCount = c.leaves.length := by
  simp [leafCount, countLeaves_eq]

@[simp] theorem leafCount_leaf (c : Comparison) : (leaf c).leafCount = 1 := by
  simp [leafCount_eq_length_leaves, leaves]

@[simp] theorem leafCount_node (l r : Condition) (join : Conjunction) :
    (node l join r).leafCount = l.leafCount + r.leafCount := by
  simp [leafCount_eq_length_leaves, leaves]

end SearchFilter.Condition
