import SearchFilter.Proofs.Condition.Walk
import SearchFilter.Query

/-!
# The text of a query

`Condition.reference` writes a condition by recursion on its tree, and numbers the placeholders as
it goes. A statement is made by a loop over tokens instead, which keeps the words written so far,
the parameters met so far and the table in front of the next column. The two are compared word by
word: `foldl_push_tokens` says what the loop adds for the tokens of a condition, whatever it has
written before.
-/

namespace SearchFilter

/-! ## The reference -/

/-- A column in SQL. -/
def Column.sql (c : Column) : String :=
  match c.table with
  | none => quoteName c.name
  | some t => quoteName t ++ "." ++ quoteName c.name

def Comparator.sql : Comparator → String
  | .eq => "="
  | .neq => "!="
  | .lt => "<"
  | .lte => "<="
  | .gt => ">"
  | .gte => ">="

def Conjunction.sql : Conjunction → String
  | .and => "AND"
  | .or => "OR"

def SortOrder.sql : SortOrder → String
  | .ascending => "ASC"
  | .descending => "DESC"

/-- A sorter in SQL. -/
def Sorter.sql (s : Sorter) : String := "ORDER BY " ++ s.column.sql ++ " " ++ s.order.sql

namespace Condition

/-- The text of a condition whose first placeholder has number `n`, and the comparisons with the
numbers of their placeholders in the order of the text. -/
def reference : Condition → Nat → String × List (Nat × Comparison)
  | .leaf c, n => (c.column.sql ++ " " ++ c.op.sql ++ " " ++ placeholder n, [(n, c)])
  | .node l join r, n =>
    let (left, ls) := l.reference n
    let (right, rs) := r.reference (n + ls.length)
    ("( " ++ left ++ " " ++ join.sql ++ " " ++ right ++ " )", ls ++ rs)

/-- The numbered comparisons of a reference are the leaves. -/
theorem map_snd_reference (c : Condition) (n : Nat) :
    (c.reference n).2.map Prod.snd = c.leaves := by
  induction c generalizing n with
  | leaf c => rfl
  | node l join r ihl ihr => simp [reference, leaves, ihl, ihr]

@[simp] theorem length_reference (c : Condition) (n : Nat) :
    (c.reference n).2.length = c.leafCount := by
  rw [leafCount_eq_length_leaves, ← map_snd_reference c n, List.length_map]

/-- The placeholders of a reference are numbered one after the other. -/
theorem map_fst_reference (c : Condition) (n : Nat) :
    (c.reference n).2.map Prod.fst = List.range' n c.leafCount := by
  induction c generalizing n with
  | leaf c => simp [reference]
  | node l join r ihl ihr => simp [reference, ihl, ihr]

/-! ## Words -/

/-- The words of a condition whose first placeholder has number `n`. -/
def words : Condition → Nat → List String
  | .leaf c, n => [c.column.sql, c.op.sql, placeholder n]
  | .node l join r, n =>
    "(" :: (l.words n ++ join.sql :: (r.words (n + l.leafCount) ++ [")"]))

theorem words_ne_nil (c : Condition) (n : Nat) : c.words n ≠ [] := by cases c <;> simp [words]

/-- One space between the words of a condition makes its reference. -/
theorem intercalate_words (c : Condition) (n : Nat) :
    " ".intercalate (c.words n) = (c.reference n).1 := by
  induction c generalizing n with
  | leaf c => simp [words, reference, String.append_assoc]
  | node l join r ihl ihr =>
    have hr := words_ne_nil r (n + l.leafCount)
    have hl := words_ne_nil l n
    rw [words, String.intercalate_cons_of_ne_nil (by simp),
      String.intercalate_append_of_ne_nil hl (by simp),
      String.intercalate_cons_of_ne_nil (by simp),
      String.intercalate_append_of_ne_nil hr (by simp), ihl, ihr]
    simp [reference, String.append_assoc]

end Condition

/-! ## The loop -/

namespace Rendering

theorem foldl_push_column (c : Column) (ws : Array String) (ps : Array Value) :
    c.tokens.foldl push ⟨ws, ps, ""⟩ = ⟨ws.push c.sql, ps, ""⟩ := by
  obtain ⟨_ | t, name⟩ := c
  · simp [Column.tokens, Column.sql, push]
  · simp [Column.tokens, Column.sql, push, String.isEmpty_iff]

/-- A token with a fixed text adds it as a word. -/
theorem push_of_literal {t : Token} {word : String} (h : t.literal? = some word) (ht : t ≠ .dot)
    (r : Rendering) : push r t = { r with words := r.words.push word } := by
  cases t <;> simp_all [push, Token.literal?]

theorem literal?_comparator (op : Comparator) : op.token.literal? = some op.sql := by
  cases op <;> rfl

theorem literal?_conjunction (join : Conjunction) : join.token.literal? = some join.sql := by
  cases join <;> rfl

theorem literal?_sortOrder (order : SortOrder) : order.token.literal? = some order.sql := by
  cases order <;> rfl

theorem push_placeholder (v : Value) (ws : Array String) (ps : Array Value) :
    push ⟨ws, ps, ""⟩ (.placeholder v) =
      ⟨ws.push (SearchFilter.placeholder (ps.size + 1)), ps.push v, ""⟩ := rfl

/-- What the loop adds for the tokens of a condition. -/
theorem foldl_push_tokens (c : Condition) (ws : Array String) (ps : Array Value) :
    c.tokens.foldl push ⟨ws, ps, ""⟩ =
      ⟨ws ++ (c.words (ps.size + 1)).toArray, ps ++ (c.leaves.map Comparison.value).toArray,
        ""⟩ := by
  induction c generalizing ws ps with
  | leaf c =>
    have hop : c.op.token ≠ .dot := by cases c.op <;> decide
    rw [Condition.tokens_leaf, Comparison.tokens, List.foldl_append, foldl_push_column,
      List.foldl_cons, push_of_literal (literal?_comparator c.op) hop, List.foldl_cons,
      push_placeholder]
    simp [Condition.words, Condition.leaves, ← Array.toList_inj]
  | node l join r ihl ihr =>
    have hj : join.token ≠ .dot := by cases join <;> decide
    have hsize : (ps ++ (l.leaves.map Comparison.value).toArray).size + 1 =
        ps.size + 1 + l.leafCount := by
      simp [Condition.leafCount_eq_length_leaves]; omega
    rw [Condition.tokens_node, List.foldl_cons, push_of_literal rfl (by decide), List.foldl_append,
      ihl, List.foldl_cons, push_of_literal (literal?_conjunction join) hj, List.foldl_append, ihr,
      List.foldl_cons, push_of_literal rfl (by decide), hsize]
    simp [Condition.words, Condition.leaves]

end Rendering

/-! ## Queries -/

namespace Query

/-- The words of a query. -/
def words (q : Query) : List String :=
  q.condition.words 1 ++
    match q.sorter with
    | none => []
    | some s => ["ORDER BY", s.column.sql, s.order.sql]

theorem build_eq_words (q : Query) :
    q.build = ⟨" ".intercalate q.words, q.condition.leaves.map Comparison.value⟩ := by
  obtain ⟨c, _ | s⟩ := q
  · simp [build, tokens, words, Statement.ofTokens, Rendering.empty, Rendering.statement,
      Rendering.foldl_push_tokens]
  · have ho : s.order.token ≠ .dot := by cases s.order <;> decide
    have hs (ws : Array String) (ps : Array Value) :
        s.tokens.foldl Rendering.push ⟨ws, ps, ""⟩ =
          ⟨ws ++ #["ORDER BY", s.column.sql, s.order.sql], ps, ""⟩ := by
      rw [Sorter.tokens, List.cons_append, List.foldl_cons,
        Rendering.push_of_literal rfl (by decide), List.foldl_append, Rendering.foldl_push_column,
        List.foldl_cons, Rendering.push_of_literal (Rendering.literal?_sortOrder s.order) ho]
      simp [← Array.toList_inj]
    simp [build, tokens, words, Statement.ofTokens, Rendering.empty, Rendering.statement,
      Rendering.foldl_push_tokens, hs]

/-- The text of a query as its condition and sorter have it. -/
def reference (q : Query) : String :=
  (q.condition.reference 1).1 ++ (q.sorter.map fun s => " " ++ s.sql).getD ""

theorem sql_build (q : Query) : q.build.sql = q.reference := by
  obtain ⟨c, _ | s⟩ := q
  · simp [build_eq_words, words, reference, Condition.intercalate_words]
  · rw [build_eq_words, words,
      String.intercalate_append_of_ne_nil (Condition.words_ne_nil c 1) (by simp),
      Condition.intercalate_words]
    simp [reference, Sorter.sql, String.append_assoc]

@[simp] theorem params_build (q : Query) :
    q.build.params = q.condition.leaves.map Comparison.value := by
  rw [build_eq_words]

/-- The value of the comparison whose placeholder has number `n` is parameter `n`, counted from
1. -/
theorem getElem?_params_build (q : Query) {p : Nat × Comparison}
    (hp : p ∈ (q.condition.reference 1).2) : q.build.params[p.1 - 1]? = some p.2.value := by
  obtain ⟨i, hi⟩ := List.getElem?_of_mem hp
  have hfst : ((q.condition.reference 1).2.map Prod.fst)[i]? = some p.1 := by simp [hi]
  have hsnd : ((q.condition.reference 1).2.map Prod.snd)[i]? = some p.2 := by simp [hi]
  rw [Condition.map_fst_reference, List.getElem?_eq_some_iff] at hfst
  obtain ⟨_, hn⟩ := hfst
  have hnum : p.1 - 1 = i := by rw [List.getElem_range'] at hn; omega
  rw [Condition.map_snd_reference] at hsnd
  rw [hnum, params_build, List.getElem?_map, hsnd, Option.map_some]

/-- A query is written as its reference has it, one space between its words and none at the end.
The placeholders are numbered from 1 in the order of the leaves, and the parameters are the values
of the leaves in that order. -/
theorem build_eq_reference (q : Query) :
    q.build.sql = q.reference ∧
      q.build.sql = " ".intercalate q.words ∧
      (q.condition.reference 1).2.map Prod.fst = List.range' 1 q.condition.leafCount ∧
      (q.condition.reference 1).2.map Prod.snd = q.condition.leaves ∧
      q.build.params = q.condition.leaves.map Comparison.value ∧
      ∀ p ∈ (q.condition.reference 1).2, q.build.params[p.1 - 1]? = some p.2.value := by
  refine ⟨sql_build q, ?_, ?_, ?_, params_build q, ?_⟩
  · rw [build_eq_words]
  · exact Condition.map_fst_reference q.condition 1
  · exact Condition.map_snd_reference q.condition 1
  · intro p hp
    exact getElem?_params_build q hp

/-- Columns with and without a table, nested both ways, and a sorter. -/
def mixed : Query :=
  ⟨.and
      (.or (.compare (.qualified "rg" "name") .eq (.text "Kid A"))
        (.compare (.plain "a") .gt (.int 2)))
      (.compare (.plain "b") .neq .null),
    some ⟨.qualified "rg" "name", .ascending⟩⟩

theorem build_mixed :
    mixed.build.sql =
        "( ( \"rg\".\"name\" = $1 OR \"a\" > $2 ) AND \"b\" != $3 ) ORDER BY \"rg\".\"name\" ASC" ∧
      (2, ⟨.plain "a", .gt, .int 2⟩) ∈ (mixed.condition.reference 1).2 ∧
      mixed.build.params[1]? = some (.int 2) := by
  have hmem : (2, ⟨.plain "a", .gt, .int 2⟩) ∈ (mixed.condition.reference 1).2 := by decide
  refine ⟨?_, hmem, (build_eq_reference mixed).2.2.2.2.2 _ hmem⟩
  rw [(build_eq_reference mixed).1]
  decide

end Query

end SearchFilter
