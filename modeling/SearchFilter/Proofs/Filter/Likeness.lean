import SearchFilter.Proofs.Condition.Outline
import SearchFilter.Proofs.Filter.Resolution

/-!
# Filters that differ in their literals

Two derivations are alike if they differ in literals and blanks alone. The conditions they resolve
to have the same outline, whatever the literals say (`Phrase.Alike.outline_eq`).
-/

namespace SearchFilter.Filter

/-- The derivations have the same names, operators, conjunctions and parentheses in the same
places. Their literals and their blanks may differ. -/
inductive Phrase.Alike : {level : Level} → Phrase level → Phrase level → Prop where
  | clause {w w' : Wording} (hname : w.name = w'.name) (hop : w.op = w'.op) :
      Alike (.clause w) (.clause w')
  | group {p p' : Phrase .whole} (before after before' after' : Blanks) (h : Alike p p') :
      Alike (.group before p after) (.group before' p' after')
  | one {join : Conjunction} {p p' : Phrase (.operand join)} (h : Alike p p') :
      Alike (.one p) (.one p')
  | more {join : Conjunction} {p p' : Phrase (.operand join)} {ps ps' : Phrase (.chain join)}
      (before after before' after' : Blanks) (h : Alike p p') (hs : Alike ps ps') :
      Alike (.more p before after ps) (.more p' before' after' ps')

variable {source source' : List Char} {resolver : Resolver} {level : Level} {p p' : Phrase level}

/-- The conditions that the operands of a derivation resolve to. -/
def Phrase.Operands (source : List Char) (resolver : Resolver) (p : Phrase level)
    (rest : List Char) (cs : List Condition) : Prop :=
  List.Forall₂ (fun f c => f.resolve source resolver = .ok c) (p.filters rest) cs

theorem Phrase.operands_singleton {f : Filter} {rest : List Char} {cs : List Condition}
    (hp : p.filters rest = [f]) (h : p.Operands source resolver rest cs) :
    ∃ c, f.resolve source resolver = .ok c ∧ cs = [c] := by
  rw [Operands, hp] at h
  obtain ⟨c, _, hc, hnil, rfl⟩ := List.forall₂_cons_left_iff.1 h
  cases hnil
  exact ⟨c, hc, rfl⟩

/-- Where the operands have the same outlines, so have the conditions. -/
theorem Phrase.outline_eq_of_operands {rest rest' : List Char} {c c' : Condition}
    (h : ∀ cs cs', p.Operands source resolver rest cs → p'.Operands source' resolver rest' cs' →
      cs.map Condition.outline = cs'.map Condition.outline)
    (hc : (p.filter rest).resolve source resolver = .ok c)
    (hc' : (p'.filter rest').resolve source' resolver = .ok c') : c.outline = c'.outline := by
  match level, p, p' with
  | .item, p, p' =>
    have hitem (q : Phrase .item) (t : List Char) : q.filters t = [q.filter t] := by
      cases q <;> rfl
    have houtline := h [c] [c'] (by rw [Operands, hitem]; exact .cons hc .nil)
      (by rw [Operands, hitem]; exact .cons hc' .nil)
    exact List.singleton_inj.1 houtline
  | .chain join, p, p' =>
    rw [filter_eq_chain, resolve_chain_eq_ok_iff] at hc hc'
    obtain ⟨cs, hcs, hjoin⟩ := hc
    obtain ⟨cs', hcs', hjoin'⟩ := hc'
    have hmap := Condition.outline_of_join? hjoin
    rw [h cs cs' hcs hcs', Condition.outline_of_join? hjoin'] at hmap
    exact (Option.some.inj hmap).symm

theorem Phrase.Alike.map_outline_eq (h : p.Alike p') {rest rest' : List Char}
    {cs cs' : List Condition} (hcs : p.Operands source resolver rest cs)
    (hcs' : p'.Operands source' resolver rest' cs') :
    cs.map Condition.outline = cs'.map Condition.outline := by
  induction h generalizing rest rest' cs cs' with
  | @clause w w' hname hop =>
    obtain ⟨c, hc, rfl⟩ := operands_singleton rfl hcs
    obtain ⟨c', hc', rfl⟩ := operands_singleton rfl hcs'
    rw [resolve] at hc hc'
    obtain ⟨field, v, hfield, -, rfl⟩ := Clause.resolve_eq_ok_iff.1 hc
    obtain ⟨field', v', hfield', -, rfl⟩ := Clause.resolve_eq_ok_iff.1 hc'
    simp only [Wording.clause] at hfield hfield'
    rw [← hname, hfield] at hfield'
    cases hfield'
    simp [Condition.compare, Condition.outline, Wording.clause, hop]
  | group before after before' after' h ih =>
    obtain ⟨c, hc, rfl⟩ := operands_singleton rfl hcs
    obtain ⟨c', hc', rfl⟩ := operands_singleton rfl hcs'
    exact congrArg (· :: []) (outline_eq_of_operands (fun _ _ hs hs' => ih hs hs') hc hc')
  | one h ih =>
    obtain ⟨c, hc, rfl⟩ := operands_singleton rfl hcs
    obtain ⟨c', hc', rfl⟩ := operands_singleton rfl hcs'
    exact congrArg (· :: []) (outline_eq_of_operands (fun _ _ hs hs' => ih hs hs') hc hc')
  | more before after before' after' h hs ih ihs =>
    obtain ⟨c, ds, hc, hds, rfl⟩ := List.forall₂_cons_left_iff.1 hcs
    obtain ⟨c', ds', hc', hds', rfl⟩ := List.forall₂_cons_left_iff.1 hcs'
    rw [List.map_cons, List.map_cons, ihs hds hds',
      outline_eq_of_operands (fun _ _ hs hs' => ih hs hs') hc hc']

/-- Derivations that are alike resolve to conditions of the same outline. -/
theorem Phrase.Alike.outline_eq (h : p.Alike p') {rest rest' : List Char} {c c' : Condition}
    (hc : (p.filter rest).resolve source resolver = .ok c)
    (hc' : (p'.filter rest').resolve source' resolver = .ok c') : c.outline = c'.outline :=
  outline_eq_of_operands (fun _ _ => h.map_outline_eq) hc hc'

end SearchFilter.Filter
