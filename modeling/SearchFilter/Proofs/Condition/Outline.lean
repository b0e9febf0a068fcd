import SearchFilter.Proofs.Statement.Rendering

/-!
# Outlines

The outline of a condition is what is left when its values are forgotten: its columns, its
operators and how they are joined. The text of a query is that of its outline
(`Query.sql_build_outline`); the outline and the values together are the condition
(`Condition.eq_of_outline_eq`).
-/

namespace SearchFilter

namespace Condition

/-- A condition with every value forgotten. -/
def outline : Condition → Condition
  | .leaf c => .leaf { c with value := .null }
  | .node l join r => .node l.outline join r.outline

@[simp] theorem leafCount_outline (c : Condition) : c.outline.leafCount = c.leafCount := by
  induction c with
  | leaf c => simp [outline]
  | node l join r ihl ihr => simp [outline, ihl, ihr]

/-- The text of a condition is that of its outline. -/
theorem reference_outline (c : Condition) (n : Nat) :
    (c.outline.reference n).1 = (c.reference n).1 := by
  induction c generalizing n with
  | leaf c => rfl
  | node l join r ihl ihr => simp [outline, reference, ihl, ihr]

/-- Conditions of one outline with the same values in it are the same. -/
theorem eq_of_outline_eq {c d : Condition} (h : c.outline = d.outline)
    (hvalues : c.leaves.map Comparison.value = d.leaves.map Comparison.value) : c = d := by
  induction c generalizing d with
  | leaf c =>
    cases d with
    | node l join r => cases h
    | leaf d =>
      obtain ⟨column, op, v⟩ := c
      obtain ⟨column', op', v'⟩ := d
      simp only [outline, leaf.injEq, Comparison.mk.injEq] at h
      simp only [leaves, List.map_cons, List.map_nil, List.cons.injEq] at hvalues
      rw [h.1, h.2.1, hvalues.1]
  | node l join r ihl ihr =>
    cases d with
    | leaf d => cases h
    | node l' join' r' =>
      simp only [outline, node.injEq] at h
      obtain ⟨hl, rfl, hr⟩ := h
      have hlength : (l.leaves.map Comparison.value).length =
          (l'.leaves.map Comparison.value).length := by
        rw [List.length_map, List.length_map, ← leafCount_eq_length_leaves,
          ← leafCount_eq_length_leaves, ← leafCount_outline l, hl, leafCount_outline]
      rw [leaves, leaves, List.map_append, List.map_append] at hvalues
      obtain ⟨hvl, hvr⟩ := List.append_inj hvalues hlength
      rw [ihl hl hvl, ihr hr hvr]

/-- A fold has the fold of the outlines for its outline. -/
theorem outline_of_join? {join : Conjunction} {cs : List Condition} {c : Condition}
    (h : join? join cs = some c) : join? join (cs.map outline) = some c.outline := by
  have hfold (cs : List Condition) (d : Condition) :
      (cs.map outline).foldl (fun l r => node l join r) d.outline =
        (cs.foldl (fun l r => node l join r) d).outline := by
    induction cs generalizing d with
    | nil => rfl
    | cons c cs ih => exact ih (node d join c)
  cases cs with
  | nil => cases h
  | cons d cs =>
    cases h
    exact congrArg some (hfold cs d)

end Condition

namespace Query

/-- A query with every value forgotten. -/
def outline (q : Query) : Query := { q with condition := q.condition.outline }

/-- The text of a query is that of its outline: no value has a part in it. -/
theorem sql_build_outline (q : Query) : q.outline.build.sql = q.build.sql := by
  rw [sql_build, sql_build, reference, reference, outline, Condition.reference_outline]

/-- Queries of one outline with the same parameters are the same. -/
theorem eq_of_outline_eq {q p : Query} (h : q.outline = p.outline)
    (hparams : q.build.params = p.build.params) : q = p := by
  obtain ⟨c, s⟩ := q
  obtain ⟨d, s'⟩ := p
  simp only [outline, mk.injEq] at h
  simp only [params_build] at hparams
  rw [Condition.eq_of_outline_eq h.1 hparams, h.2]

end Query

end SearchFilter
