import Mathlib.Data.List.Induction
import SearchFilter.Proofs.Filter.Resolution
import SearchFilter.Proofs.Statement.Placeholders

/-!
# The text of a fold

A fold over many conditions leans to the left as far as it is wide, and its text is flat all the
same: the parentheses open at the beginning, and each further operand closes one of them
(`foldSql`). An operand reads as it would on its own, but for the numbers of its placeholders, which
count on from the operands before it (`raisedSql`).
-/

namespace SearchFilter

/-! ## Raising placeholders -/

/-- A word with its number, if it is a placeholder, `k` higher. -/
def raise (k : Nat) (word : String) : String :=
  if isPlaceholder word then placeholder (Text.digitsValue word.toList.tail + k) else word

@[simp] theorem raise_placeholder (k n : Nat) : raise k (placeholder n) = placeholder (n + k) := by
  have htail : (placeholder n).toList.tail = Text.decimalDigits n := by simp [placeholder]
  rw [raise, if_pos (isPlaceholder_placeholder n), htail, Text.digitsValue_decimalDigits]

theorem raise_of_not_isPlaceholder {word : String} (h : isPlaceholder word = false) (k : Nat) :
    raise k word = word := by
  rw [raise, h, if_neg Bool.false_ne_true]

namespace Condition

/-- A condition that is numbered from `k` further on has the same words but for its placeholders,
which are `k` higher. -/
theorem map_raise_words (c : Condition) (n k : Nat) :
    (c.words n).map (raise k) = c.words (n + k) := by
  induction c generalizing n with
  | leaf c =>
    have hcolumn := raise_of_not_isPlaceholder c.column.isPlaceholder_sql k
    have hop := raise_of_not_isPlaceholder c.op.isPlaceholder_sql k
    simp only [words, List.map_cons, List.map_nil, hcolumn, hop, raise_placeholder]
  | node l join r ihl ihr =>
    have hopen : raise k "(" = "(" := raise_of_not_isPlaceholder (by decide) k
    have hclose : raise k ")" = ")" := raise_of_not_isPlaceholder (by decide) k
    have hjoin := raise_of_not_isPlaceholder join.isPlaceholder_sql k
    have hnumber : n + l.leafCount + k = n + k + l.leafCount := by omega
    simp only [words, List.map_cons, List.map_append, List.map_nil, hopen, hclose, hjoin, ihl, ihr,
      hnumber]

/-- The text of a condition on its own, with the number of every placeholder `k` higher. -/
def raisedSql (k : Nat) (c : Condition) : String := " ".intercalate ((c.words 1).map (raise k))

/-- The text of a condition on its own. -/
theorem sql_build_ofCondition (c : Condition) :
    (Query.ofCondition c).build.sql = " ".intercalate (c.words 1) := by
  rw [Query.build_eq_words, Query.words, Query.ofCondition, List.append_nil]

theorem sql_build_node (l r : Condition) (join : Conjunction) :
    (Query.ofCondition (node l join r)).build.sql =
      "( " ++ (Query.ofCondition l).build.sql ++ " " ++ join.sql ++ " " ++
        r.raisedSql l.leafCount ++ " )" := by
  have hr : r.raisedSql l.leafCount = (r.reference (1 + l.leafCount)).1 := by
    rw [raisedSql, map_raise_words, intercalate_words]
  rw [hr, sql_build_ofCondition, sql_build_ofCondition, intercalate_words, intercalate_words]
  simp only [reference, length_reference]

/-! ## Operands side by side -/

/-- The number of comparisons of some conditions. -/
def totalLeaves : List Condition → Nat
  | [] => 0
  | c :: cs => c.leafCount + totalLeaves cs

theorem totalLeaves_eq_length (cs : List Condition) :
    totalLeaves cs = (cs.flatMap leaves).length := by
  induction cs with
  | nil => rfl
  | cons c cs ih =>
    rw [totalLeaves, ih, leafCount_eq_length_leaves, List.flatMap_cons, List.length_append]

/-- The texts of some conditions, the placeholders of each one as many higher as there are
comparisons before it. -/
def fragments (cs : List Condition) : List String :=
  cs.mapIdx fun i c => c.raisedSql (totalLeaves (cs.take i))

theorem fragments_concat (cs : List Condition) (c : Condition) :
    fragments (cs ++ [c]) = fragments cs ++ [c.raisedSql (totalLeaves cs)] := by
  rw [fragments, List.mapIdx_concat, List.take_left]
  congr 1
  rw [fragments, List.mapIdx_eq_mapIdx_iff]
  intro i hi
  rw [List.take_append_of_le_length (Nat.le_of_lt hi)]

/-- The text of a fold: all parentheses open before the first operand, and one closes after each of
the others. -/
def foldSql (join : Conjunction) (cs : List Condition) : String :=
  match fragments cs with
  | [] => ""
  | f :: fs => String.join (List.replicate fs.length "( ") ++ f ++
      String.join (fs.map fun g => " " ++ join.sql ++ " " ++ g ++ " )")

theorem foldSql_singleton (join : Conjunction) (c : Condition) :
    foldSql join [c] = (Query.ofCondition c).build.sql := by
  have hc : fragments [c] = [c.raisedSql 0] := rfl
  rw [foldSql, hc, raisedSql, map_raise_words, sql_build_ofCondition]
  simp

/-- A further operand opens a parenthesis at the beginning and closes it at the end. -/
theorem foldSql_concat {cs : List Condition} (hne : cs ≠ []) (join : Conjunction) (c : Condition) :
    foldSql join (cs ++ [c]) =
      "( " ++ foldSql join cs ++ " " ++ join.sql ++ " " ++ c.raisedSql (totalLeaves cs) ++ " )" := by
  obtain ⟨f, fs, hf⟩ : ∃ f fs, fragments cs = f :: fs := by
    refine List.exists_cons_of_ne_nil ?_
    rwa [fragments, Ne, List.mapIdx_eq_nil_iff]
  rw [foldSql, fragments_concat, foldSql, hf]
  simp only [List.cons_append, List.length_append, List.length_singleton, List.replicate_succ,
    String.join_cons, List.map_append, List.map_singleton, String.join_append, String.join_nil,
    String.append_assoc, String.append_empty]

/-! ## Folds -/

/-- The condition reads as the fold of the list: its text, its parameters and the number of its
comparisons are put together from those of the operands. -/
structure Folds (join : Conjunction) (cs : List Condition) (c : Condition) : Prop where
  operands : ∀ d ∈ cs, (Query.ofCondition d).build.sql = " ".intercalate (d.words 1)
  sql : (Query.ofCondition c).build.sql = foldSql join cs
  params : (Query.ofCondition c).build.params =
    cs.flatMap fun d => (Query.ofCondition d).build.params
  leafCount : c.leafCount = totalLeaves cs

theorem leafCount_of_join? {join : Conjunction} {cs : List Condition} {c : Condition}
    (h : join? join cs = some c) : c.leafCount = totalLeaves cs := by
  rw [leafCount_eq_length_leaves, leaves_of_join? h, totalLeaves_eq_length]

theorem sql_of_join? {join : Conjunction} {cs : List Condition} {c : Condition}
    (h : join? join cs = some c) : (Query.ofCondition c).build.sql = foldSql join cs := by
  -- the fold grows at its end, so the induction takes off the last operand
  induction cs using List.reverseRecOn generalizing c with
  | nil => cases h
  | append_singleton cs r ih =>
    by_cases hne : cs = []
    · subst hne
      cases h
      exact (foldSql_singleton join r).symm
    · obtain ⟨l, hl⟩ := Option.ne_none_iff_exists'.1 (mt join?_eq_none_iff.1 hne)
      have hnode := join?_concat (r := r) hl
      rw [h, Option.some.injEq] at hnode
      rw [hnode, sql_build_node, ih hl, foldSql_concat hne, leafCount_of_join? hl]

theorem folds_of_join? {join : Conjunction} {cs : List Condition} {c : Condition}
    (h : join? join cs = some c) : Folds join cs c := by
  refine ⟨?_, sql_of_join? h, ?_, leafCount_of_join? h⟩
  · intro d _
    exact sql_build_ofCondition d
  · simp only [Query.params_build, Query.ofCondition, leaves_of_join? h, List.map_flatMap]

/-- Only the fold of no conditions is none. Any other fold has the flat text, the parameters of its
operands one after the other, and as many comparisons as they have together. -/
theorem folds_any?_all? (cs : List Condition) :
    (any? cs = none ↔ cs = []) ∧ (all? cs = none ↔ cs = []) ∧
      (∀ c, any? cs = some c → Folds .or cs c) ∧ (∀ c, all? cs = some c → Folds .and cs c) := by
  refine ⟨join?_eq_none_iff, join?_eq_none_iff, ?_, ?_⟩
  · intro c hc
    exact folds_of_join? hc
  · intro c hc
    exact folds_of_join? hc

/-- Three operands, the second one a combination of its own. -/
def operands : List Condition :=
  [.compare (.plain "a") .eq (.int 1),
    .and (.compare (.qualified "t" "b") .lt (.text "$1")) (.compare (.plain "$9") .neq .null),
    .compare (.plain "a") .gte (.int 2)]

theorem folds_any?_all?_operands : ∃ c, any? operands = some c ∧
    (Query.ofCondition c).build.sql =
      "( ( \"a\" = $1 OR ( \"t\".\"b\" < $2 AND \"$9\" != $3 ) ) OR \"a\" >= $4 )" ∧
    (Query.ofCondition c).build.params = [.int 1, .text "$1", .null, .int 2] ∧
    c.leafCount = 4 := by
  have hfolds := (folds_any?_all? operands).2.2.1 _ rfl
  refine ⟨_, rfl, ?_, ?_, ?_⟩
  · have hfragments : fragments operands =
        ["\"a\" = $1", "( \"t\".\"b\" < $2 AND \"$9\" != $3 )", "\"a\" >= $4"] := by
      simp only [fragments, operands, List.mapIdx_cons, List.mapIdx_nil, List.take_zero,
        List.take_succ_cons, totalLeaves, raisedSql, map_raise_words, Condition.and, compare, words,
        leafCount_leaf, leafCount_node]
      decide
    rw [hfolds.sql, foldSql, hfragments]
    decide
  · rw [Query.params_build]
    rfl
  · rw [hfolds.leafCount]
    simp [totalLeaves, operands, compare, Condition.and]

end Condition

end SearchFilter
