import Mathlib.Data.List.Forall2
import SearchFilter.Filter.Resolve
import SearchFilter.Proofs.Filter.Grammar

/-!
# What filters resolve to

When a filter has a condition, in terms of its parts: `resolve_chain_eq_ok_iff` for a chain and
`Clause.resolve_eq_ok_iff` for a clause. The comparisons of the condition are those of the filter,
one by one and in the same order (`forall₂_clauses`).
-/

namespace SearchFilter

theorem Condition.leaves_of_join? {join : Conjunction} {cs : List Condition} {c : Condition}
    (h : join? join cs = some c) : c.leaves = cs.flatMap leaves := by
  have hfold (cs : List Condition) (d : Condition) :
      (cs.foldl (fun l r => node l join r) d).leaves = d.leaves ++ cs.flatMap leaves := by
    induction cs generalizing d with
    | nil => simp
    | cons c cs ih => simp [ih, leaves]
  cases cs with
  | nil => cases h
  | cons d cs =>
    cases h
    exact hfold cs d

theorem Condition.join?_concat {join : Conjunction} {cs : List Condition} {l r : Condition}
    (h : join? join cs = some l) : join? join (cs ++ [r]) = some (.node l join r) := by
  cases cs with
  | nil => cases h
  | cons d cs =>
    cases h
    simp [join?]

namespace Filter

variable {source : List Char} {resolver : Resolver} {join : Conjunction} {fs : List Filter}
  {c : Condition}

theorem Clause.resolve_eq_ok_iff {k : Clause} :
    k.resolve source resolver = .ok c ↔ ∃ field v, resolver (String.ofList k.name) = .ok field ∧
      k.literal.value field.type = .ok v ∧ c = .compare field.column k.op v := by
  unfold Clause.resolve
  constructor
  · intro h
    split at h
    · cases h
    · next field hfield =>
      split at h
      · next v hv =>
        cases h
        exact ⟨field, v, hfield, hv, rfl⟩
      · cases h
  · rintro ⟨field, v, hfield, hv, rfl⟩
    rw [hfield]
    simp only [hv]

theorem joined_eq_ok_iff {cs : List Condition} :
    joined join cs = .ok c ↔ Condition.join? join cs = some c := by
  unfold joined
  cases Condition.join? join cs <;> simp

/-- Filters are resolved one by one, in order, after the conditions that are there already. -/
theorem resolveEach_eq_ok_iff {done cs : List Condition} :
    resolveEach source resolver fs done = .ok cs ↔
      ∃ ds, List.Forall₂ (fun f c => f.resolve source resolver = .ok c) fs ds ∧
        cs = done.reverse ++ ds := by
  induction fs generalizing done with
  | nil =>
    rw [resolveEach]
    simp [eq_comm]
  | cons f fs ih =>
    rw [resolveEach]
    cases hf : f.resolve source resolver with
    | error e => simp [List.forall₂_cons_left_iff, hf]
    | ok d =>
      simp only [ih, List.forall₂_cons_left_iff, hf, Except.ok.injEq]
      constructor
      · rintro ⟨ds, hds, rfl⟩
        exact ⟨d :: ds, ⟨d, ds, rfl, hds, rfl⟩, by simp⟩
      · rintro ⟨_, ⟨_, ds, rfl, hds, rfl⟩, rfl⟩
        exact ⟨ds, hds, by simp⟩

/-- A chain has a condition if its operands have: these joined from the left. -/
theorem resolve_node_eq_ok_iff :
    (node join fs).resolve source resolver = .ok c ↔
      ∃ cs, List.Forall₂ (fun f c => f.resolve source resolver = .ok c) fs cs ∧
        Condition.join? join cs = some c := by
  cases hfs : resolveEach source resolver fs [] with
  | error e =>
    have hnode : (node join fs).resolve source resolver = .error e := by
      cases join <;> simp only [node, resolve, hfs]
    rw [hnode]
    constructor
    · intro h
      cases h
    · rintro ⟨cs, hcs, -⟩
      cases hfs.symm.trans (resolveEach_eq_ok_iff.2 ⟨cs, hcs, rfl⟩)
  | ok cs =>
    have hnode : (node join fs).resolve source resolver = joined join cs := by
      cases join <;> simp only [node, resolve, hfs]
    rw [hnode, joined_eq_ok_iff]
    constructor
    · intro h
      obtain ⟨ds, hds, rfl⟩ := resolveEach_eq_ok_iff.1 hfs
      exact ⟨_, hds, h⟩
    · rintro ⟨ds, hds, h⟩
      cases hfs.symm.trans (resolveEach_eq_ok_iff.2 ⟨ds, hds, rfl⟩)
      exact h

theorem resolve_chain_eq_ok_iff :
    (chain join fs).resolve source resolver = .ok c ↔
      ∃ cs, List.Forall₂ (fun f c => f.resolve source resolver = .ok c) fs cs ∧
        Condition.join? join cs = some c := by
  match fs with
  | [f] => simp [List.forall₂_cons_left_iff, Condition.join?]
  | [] =>
    have hnode : chain join [] = node join [] := by cases join <;> rfl
    rw [hnode, resolve_node_eq_ok_iff]
  | f :: g :: fs =>
    have hnode : chain join (f :: g :: fs) = node join (f :: g :: fs) := by cases join <;> rfl
    rw [hnode, resolve_node_eq_ok_iff]

mutual

/-- The comparisons of a condition are those of its filter, in the same order. -/
theorem forall₂_clauses (f : Filter) {c : Condition} (h : f.resolve source resolver = .ok c) :
    List.Forall₂ (fun k l => k.resolve source resolver = .ok (.leaf l)) f.clauses c.leaves := by
  match f with
  | .clause k =>
    rw [resolve] at h
    obtain ⟨field, v, -, -, rfl⟩ := Clause.resolve_eq_ok_iff.1 h
    exact .cons h .nil
  | .all fs =>
    have hnode : (node .and fs).resolve source resolver = .ok c := h
    obtain ⟨cs, hcs, hjoin⟩ := resolve_node_eq_ok_iff.1 hnode
    rw [clauses, Condition.leaves_of_join? hjoin]
    exact forall₂_clausesOf fs hcs
  | .any fs =>
    have hnode : (node .or fs).resolve source resolver = .ok c := h
    obtain ⟨cs, hcs, hjoin⟩ := resolve_node_eq_ok_iff.1 hnode
    rw [clauses, Condition.leaves_of_join? hjoin]
    exact forall₂_clausesOf fs hcs

theorem forall₂_clausesOf (fs : List Filter) {cs : List Condition}
    (h : List.Forall₂ (fun f c => f.resolve source resolver = .ok c) fs cs) :
    List.Forall₂ (fun k l => k.resolve source resolver = .ok (.leaf l)) (clausesOf fs)
      (cs.flatMap Condition.leaves) := by
  match fs, h with
  | [], .nil => exact .nil
  | f :: fs, .cons hf hfs =>
    rw [clausesOf, List.flatMap_cons]
    exact List.rel_append (forall₂_clauses f hf) (forall₂_clausesOf fs hfs)

end

end Filter

end SearchFilter
