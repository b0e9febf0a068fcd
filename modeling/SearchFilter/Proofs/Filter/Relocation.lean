import SearchFilter.Proofs.Filter.FirstFailure

/-!
# The same filter text in two places

A phrase may stand in two texts, so many bytes from the beginning of each. There it has the same
condition, or it fails at the same comparison, and the failures tell the place of its literal in
either text (`Phrase.concurs`). The proof follows the derivation, and the list of operands goes
along with the filter: a chain in a chain is one list, so the filter of the rest of a chain is no
part of the filter of the whole.
-/

namespace SearchFilter.Filter

open Text

variable {source source' : List Char} {resolver : Resolver} {level : Level} {α β : Type}
  {ws vs : List Wording} {n n' : Nat} {r r' : Except Failure α}

/-! ## Answers about two places -/

/-- Answers about some comparisons that begin `n` bytes from the beginning of one text and `n'` bytes
from that of another. Both are the same value, or both tell the same comparison, the first that does
not fit. -/
inductive Concurs (resolver : Resolver) (ws : List Wording) (n n' : Nat) :
    Except Failure α → Except Failure α → Prop where
  | ok (a : α) (hfits : ∀ w ∈ ws, w.Fits resolver) : Concurs resolver ws n n' (.ok a) (.ok a)
  | error {before after : List Wording} {w : Wording} {e e' : Failure} (position : Nat)
      (hws : ws = before ++ w :: after) (hfits : ∀ v ∈ before, v.Fits resolver)
      (h : w.Clash resolver (n + position) e) (h' : w.Clash resolver (n' + position) e') :
      Concurs resolver ws n n' (.error e) (.error e')

namespace Concurs

theorem eq_ok {a : α} (h : Concurs resolver ws n n' (.ok a) r') : r' = .ok a := by
  cases h with
  | ok _ _ => rfl

theorem exists_error {e : Failure} (h : Concurs resolver ws n n' (.error e : Except Failure α) r') :
    ∃ before w after position e', ws = before ++ w :: after ∧ (∀ v ∈ before, v.Fits resolver) ∧
      w.Clash resolver (n + position) e ∧ w.Clash resolver (n' + position) e' ∧ r' = .error e' := by
  cases h with
  | error position hws hfits h h' => exact ⟨_, _, _, position, _, hws, hfits, h, h', rfl⟩

/-- Comparisons that begin further on in both texts. -/
theorem shift {k : Nat} (h : Concurs resolver ws (n + k) (n' + k) r r') :
    Concurs resolver ws n n' r r' := by
  cases h with
  | ok a hfits => exact .ok a hfits
  | error position hws hfits h h' =>
    rw [Nat.add_assoc] at h h'
    exact .error (k + position) hws hfits h h'

theorem map (h : Concurs resolver ws n n' r r') (f : α → β) :
    Concurs resolver ws n n' (r.map f) (r'.map f) := by
  cases h with
  | ok a hfits => exact .ok (f a) hfits
  | error position hws hfits h h' => exact .error position hws hfits h h'

/-- Comparisons and then others, which are looked at only if all of the first ones fit. -/
theorem bind {f f' : α → Except Failure β} (h : Concurs resolver ws n n' r r')
    (hf : ∀ a, r = .ok a → Concurs resolver vs n n' (f a) (f' a)) :
    Concurs resolver (ws ++ vs) n n' (r.bind f) (r'.bind f') := by
  cases h with
  | error position hws hfits h h' =>
    exact .error position (by rw [hws, List.append_assoc, List.cons_append]) hfits h h'
  | ok a hfits =>
    change Concurs resolver (ws ++ vs) n n' (f a) (f' a)
    have hrest := hf a rfl
    generalize f a = t, f' a = t' at hrest
    cases hrest with
    | ok b hfits' => exact .ok b (List.forall_mem_append.2 ⟨hfits, hfits'⟩)
    | error position hvs hfits' h h' =>
      exact .error position (by rw [hvs, List.append_assoc])
        (List.forall_mem_append.2 ⟨hfits, hfits'⟩) h h'

end Concurs

/-! ## Operands -/

theorem resolveEach_eq_map (fs : List Filter) (done : List Condition) :
    resolveEach source resolver fs done =
      (resolveEach source resolver fs []).map (done.reverse ++ ·) := by
  induction fs generalizing done with
  | nil => simp [resolveEach, Except.map]
  | cons f fs ih =>
    rw [resolveEach, resolveEach]
    cases f.resolve source resolver with
    | error e => rfl
    | ok c =>
      simp only
      rw [ih (c :: done), ih [c]]
      cases resolveEach source resolver fs [] with
      | error e => rfl
      | ok cs => simp [Except.map]

theorem resolveEach_cons (f : Filter) (fs : List Filter) :
    resolveEach source resolver (f :: fs) [] =
      (f.resolve source resolver).bind fun c =>
        (resolveEach source resolver fs []).map (c :: ·) := by
  rw [resolveEach]
  cases f.resolve source resolver with
  | error e => rfl
  | ok c => exact resolveEach_eq_map fs [c]

theorem resolveEach_singleton (f : Filter) :
    resolveEach source resolver [f] [] = (f.resolve source resolver).map (· :: []) := by
  rw [resolveEach_cons]
  cases f.resolve source resolver <;> rfl

/-- A chain is its operands, joined. -/
theorem resolve_node (join : Conjunction) (fs : List Filter) :
    (node join fs).resolve source resolver =
      (resolveEach source resolver fs []).bind (joined join) := by
  cases join <;> rw [node, resolve] <;> cases resolveEach source resolver fs [] <;> rfl

/-! ## Comparisons and phrases -/

theorem Wording.concurs (w : Wording) {u u' rest rest' : List Char}
    (h : source = u ++ (w.text ++ rest)) (h' : source' = u' ++ (w.text ++ rest')) :
    Concurs resolver [w] (byteLength u) (byteLength u')
      ((w.clause rest).resolve source resolver) ((w.clause rest').resolve source' resolver) := by
  cases hc : (w.clause rest).resolve source resolver with
  | ok c =>
    obtain ⟨field, v, hfield, hv, hcompare⟩ := Clause.resolve_eq_ok_iff.1 hc
    have hc' : (w.clause rest').resolve source' resolver = .ok c :=
      Clause.resolve_eq_ok_iff.2 ⟨field, v, hfield, hv, hcompare⟩
    rw [hc']
    exact .ok c (by simpa using ⟨field, v, hfield, hv⟩)
  | error e =>
    have hclash := clash_of_resolve h hc
    cases hc' : (w.clause rest').resolve source' resolver with
    | ok c =>
      obtain ⟨field, v, hfield, hv, -⟩ := Clause.resolve_eq_ok_iff.1 hc'
      exact absurd ⟨field, v, hfield, hv⟩ hclash.not_fits
    | error e' =>
      have hclash' := clash_of_resolve h' hc'
      rw [byteLength_append] at hclash hclash'
      have hfirst : [w] = [] ++ w :: [] := rfl
      exact .error _ hfirst (by simp) hclash hclash'

namespace Phrase

/-- The operands of a phrase and its filter, for the induction. -/
theorem concurs_operands (p : Phrase level) {u u' rest rest' : List Char}
    (h : source = u ++ (p.text ++ rest)) (h' : source' = u' ++ (p.text ++ rest')) :
    Concurs resolver p.wordings (byteLength u) (byteLength u')
        (resolveEach source resolver (p.filters rest) [])
        (resolveEach source' resolver (p.filters rest') []) ∧
      Concurs resolver p.wordings (byteLength u) (byteLength u')
        ((p.filter rest).resolve source resolver) ((p.filter rest').resolve source' resolver) := by
  -- a phrase of one operand has the filter of this operand
  have hone {f f' : Filter} {ws : List Wording} {n n' : Nat}
      (h : Concurs resolver ws n n' (f.resolve source resolver) (f'.resolve source' resolver)) :
      Concurs resolver ws n n' (resolveEach source resolver [f] [])
        (resolveEach source' resolver [f'] []) := by
    rw [resolveEach_singleton, resolveEach_singleton]
    exact h.map _
  induction p generalizing u u' rest rest' with
  | clause w =>
    have hw : Concurs resolver _ _ _ _ _ := w.concurs h h'
    rw [filters, filters, filter, filter]
    exact ⟨hone hw, hw⟩
  | group before body after ih =>
    have hbody (u rest : List Char) : u ++ ((group before body after).text ++ rest) =
        (u ++ '(' :: before) ++ (body.text ++ (after ++ ')' :: rest)) := by simp [text]
    have hfilter := (ih (h.trans (hbody u rest)) (h'.trans (hbody u' rest'))).2
    rw [byteLength_append u, byteLength_append u'] at hfilter
    rw [filters, filters, filter, filter]
    exact ⟨hone hfilter.shift, hfilter.shift⟩
  | one p ih =>
    rw [filters, filters, filter, filter]
    exact ⟨hone (ih h h').2, (ih h h').2⟩
  | @more join p before after ps ihp ihps =>
    have hhead (u rest : List Char) : u ++ ((more p before after ps).text ++ rest) =
        u ++ (p.text ++ (before ++ mark join :: (after ++ (ps.text ++ rest)))) := by simp [text]
    have htail (u rest : List Char) : u ++ ((more p before after ps).text ++ rest) =
        (u ++ (p.text ++ (before ++ mark join :: after))) ++ (ps.text ++ rest) := by simp [text]
    have hp := (ihp (h.trans (hhead u rest)) (h'.trans (hhead u' rest'))).2
    have hps := (ihps (h.trans (htail u rest)) (h'.trans (htail u' rest'))).1
    rw [byteLength_append u, byteLength_append u'] at hps
    have heach : Concurs resolver (more p before after ps).wordings (byteLength u) (byteLength u')
        (resolveEach source resolver ((more p before after ps).filters rest) [])
        (resolveEach source' resolver ((more p before after ps).filters rest') []) := by
      rw [filters, filters, resolveEach_cons, resolveEach_cons]
      exact hp.bind fun c _ => hps.shift.map _
    refine ⟨heach, ?_⟩
    rw [filter, filter, resolve_node, resolve_node, ← List.append_nil (wordings _)]
    refine heach.bind ?_
    intro cs hcs
    obtain ⟨c, hc⟩ := exists_joined join hcs (List.cons_ne_nil _ _)
    rw [hc]
    exact .ok c (by simp)

/-- A phrase has the same condition wherever it stands, or fails at the same comparison. -/
theorem concurs (p : Phrase level) {u u' rest rest' : List Char}
    (h : source = u ++ (p.text ++ rest)) (h' : source' = u' ++ (p.text ++ rest')) :
    Concurs resolver p.wordings (byteLength u) (byteLength u')
      ((p.filter rest).resolve source resolver) ((p.filter rest').resolve source' resolver) :=
  (p.concurs_operands h h').2

end Phrase

end SearchFilter.Filter
