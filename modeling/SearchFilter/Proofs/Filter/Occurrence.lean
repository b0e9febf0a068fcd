import SearchFilter.Proofs.Filter.FirstFailure
import SearchFilter.Proofs.Filter.Typing

/-!
# One comparison among others

A comparison of a column with a type stands somewhere in a filter text. What its literal means for
the type is then all that it adds to the fate of the text: a value becomes the leaf at the place of
the comparison, and without one the text is rejected there (`Settles`, `Occurs.settles`). Exact
accounts of the literals of a type are said with it.
-/

namespace SearchFilter.Filter

open Text

/-- The text is a filter text, and the comparison comes in it after some others and before some. -/
def Occurs (text : String) (ws : List Wording) (w : Wording) (vs : List Wording) : Prop :=
  ∃ p : Phrase .whole, p.text = trim text.toList ∧ p.wordings = ws ++ w :: vs

/-- What comparison `w` makes of the filter text it stands in, after `ws` and before `vs`. Its
column is of type `ty`, and `Means` are the values of its literal. -/
structure Settles (resolver : Resolver) (text : String) (ws : List Wording) (w : Wording)
    (vs : List Wording) (column : Column) (ty : ColumnType) (Means : Value → Prop) : Prop where
  /-- If the others fit, the text has a condition with a value at the place of the comparison if and
  only if the literal means this value. -/
  accepted : (∀ u ∈ ws ++ vs, u.Fits resolver) → ∀ v,
    (∃ c, parse resolver text = .ok c ∧ c.leaves[ws.length]? = some ⟨column, w.op, v⟩) ↔ Means v
  /-- Whatever the others are, no condition has anything else there. -/
  leaf : ∀ c, parse resolver text = .ok c →
    ∃ v, Means v ∧ c.leaves[ws.length]? = some ⟨column, w.op, v⟩
  /-- If the literal means no value, the text is rejected, and at the literal if those before it
  fit. -/
  rejected : (∀ v, ¬Means v) → (∀ c, parse resolver text ≠ .ok c) ∧
    ((∀ u ∈ ws, u.Fits resolver) → ∃ before after,
      trim text.toList = before ++ (w.text ++ after) ∧ Comprises ws before ∧ Comprises vs after ∧
      parse resolver text = .error (.parse (byteLength (before ++ w.upTo .literal))
        (.mistyped ty w.literal.word w.name)))

theorem Settles.congr {resolver : Resolver} {text : String} {ws vs : List Wording} {w : Wording}
    {column : Column} {ty : ColumnType} {Means Means' : Value → Prop}
    (h : Settles resolver text ws w vs column ty Means) (hmeans : ∀ v, Means v ↔ Means' v) :
    Settles resolver text ws w vs column ty Means' := by
  obtain rfl : Means = Means' := funext fun v => propext (hmeans v)
  exact h

/-! ## Places in lists -/

section Lists

variable {α β : Type} {P : α → Prop} {R : α → β → Prop} {x y : α} {xs ys us vs : List α}
  {ls : List β}

/-- The first element of a list that is not of some kind has one place. -/
theorem eq_of_first (h : xs ++ x :: us = ys ++ y :: vs) (hxs : ∀ a ∈ xs, P a) (hx : ¬P x)
    (hys : ∀ a ∈ ys, P a) (hy : ¬P y) : xs = ys ∧ x = y ∧ us = vs := by
  induction xs generalizing ys with
  | nil =>
    cases ys with
    | nil =>
      obtain ⟨rfl, rfl⟩ := List.cons.inj h
      exact ⟨rfl, rfl, rfl⟩
    | cons b ys =>
      obtain ⟨rfl, -⟩ := List.cons.inj h
      exact absurd (hys x List.mem_cons_self) hx
  | cons a xs ih =>
    cases ys with
    | nil =>
      obtain ⟨rfl, -⟩ := List.cons.inj h
      exact absurd (hxs a List.mem_cons_self) hy
    | cons b ys =>
      obtain ⟨rfl, htail⟩ := List.cons.inj h
      obtain ⟨rfl, rfl, rfl⟩ := ih htail (fun c hc => hxs c (List.mem_cons_of_mem a hc))
        fun c hc => hys c (List.mem_cons_of_mem a hc)
      exact ⟨rfl, rfl, rfl⟩

theorem exists_getElem?_of_forall₂ (h : List.Forall₂ R (xs ++ x :: ys) ls) :
    ∃ l, ls[xs.length]? = some l ∧ R x l := by
  induction xs generalizing ls with
  | nil =>
    cases h with
    | cons h _ => exact ⟨_, rfl, h⟩
  | cons a xs ih =>
    cases h with
    | cons _ h =>
      obtain ⟨l, hl, hR⟩ := ih h
      exact ⟨l, hl, hR⟩

end Lists

/-! ## What a comparison settles -/

theorem Literal.value_some {l : Literal} (hnull : ∀ word, l = .bare word → isNull word = false)
    (ty : ColumnType) : l.value (some ty) = accept ty l.word := by
  cases l with
  | quoted t => rfl
  | bare word => exact value_bare (hnull word rfl)

theorem Literal.accept_eq_error {ty : ColumnType} {word : List Char}
    (h : ∀ v, ty.read? word ≠ some v) : accept ty word = .error ty := by
  rw [accept, Option.eq_none_iff_forall_ne_some.2 h]

variable {resolver : Resolver} {text : String} {ws vs : List Wording} {w : Wording} {field : Field}
  {ty : ColumnType}

/-- The text of a derivation has the condition of its filter. -/
theorem parse_of_text {p : Phrase .whole} (hp : p.text = trim text.toList) :
    parse resolver text = (p.filter []).resolve (trim text.toList) resolver := by
  simp only [parse, (read_eq_ok_iff (trimmed_trim _)).2 ⟨p, hp, rfl⟩]

theorem exists_of_fits {p : Phrase .whole} (hp : p.text = trim text.toList)
    (h : ∀ u ∈ p.wordings, u.Fits resolver) : ∃ c, parse resolver text = .ok c := by
  rw [parse_of_text hp]
  cases hresolve : (p.filter []).resolve (trim text.toList) resolver with
  | ok c => exact ⟨c, rfl⟩
  | error e =>
    obtain ⟨us, u, ts, before, after, hus, -, htext, -, -, he⟩ :=
      Phrase.failsAt (Phrase.failsFirst_of_resolve hresolve)
    rw [hp] at htext
    rw [List.append_nil] at he
    exact absurd (h u (by simp [hus])) (Wording.clash_of_resolve htext he).not_fits

/-- If some comparison does not fit and those before it do, the text fails with that one. -/
theorem parse_eq_error_of_first {p : Phrase .whole} (hp : p.text = trim text.toList)
    (hwordings : p.wordings = ws ++ w :: vs) (hws : ∀ u ∈ ws, u.Fits resolver)
    (hfield : resolver (String.ofList w.name) = .ok field)
    (hvalue : w.literal.value field.type = .error ty) :
    ∃ before after, trim text.toList = before ++ (w.text ++ after) ∧
      Comprises ws before ∧ Comprises vs after ∧
      parse resolver text = .error (.parse (byteLength (before ++ w.upTo .literal))
        (.mistyped ty w.literal.word w.name)) := by
  have hw : ¬w.Fits resolver := by
    rintro ⟨field', v, hfield', hv⟩
    cases hfield.symm.trans hfield'
    cases hvalue.symm.trans hv
  rw [parse_of_text hp]
  cases hresolve : (p.filter []).resolve (trim text.toList) resolver with
  | ok c => exact absurd (Phrase.fits_of_resolve hresolve w (by simp [hwordings])) hw
  | error e =>
    obtain ⟨us, u, ts, before, after, hus, hfits, htext, hbefore, hafter, he⟩ :=
      Phrase.failsAt (Phrase.failsFirst_of_resolve hresolve)
    rw [hp] at htext
    rw [List.append_nil] at he
    have hclash := Wording.clash_of_resolve htext he
    obtain ⟨rfl, rfl, rfl⟩ :=
      eq_of_first (hwordings.symm.trans hus) hws hw hfits hclash.not_fits
    refine ⟨before, after, htext, hbefore, hafter, ?_⟩
    cases hclash with
    | column h => cases hfield.symm.trans h
    | literal hfield' htype _ hfault =>
      cases hfield.symm.trans hfield'
      cases (Literal.value_eq_error hvalue).symm.trans htype
      rw [hfault]

/-- If the text has a condition, the comparison is in it at its place, with the value of its
literal. -/
theorem Occurs.leaf (h : Occurs text ws w vs) (hfield : resolver (String.ofList w.name) = .ok field)
    {c : Condition} (hc : parse resolver text = .ok c) :
    ∃ v, w.literal.value field.type = .ok v ∧
      c.leaves[ws.length]? = some ⟨field.column, w.op, v⟩ := by
  obtain ⟨p, hp, hwordings⟩ := h
  rw [parse_of_text hp] at hc
  have hleaves := p.forall₂_wordings_leaves hc
  rw [hwordings] at hleaves
  obtain ⟨l, hl, rest, hresolve⟩ := exists_getElem?_of_forall₂ hleaves
  obtain ⟨field', v, hfield', hv, hcompare⟩ := Clause.resolve_eq_ok_iff.1 hresolve
  cases hfield.symm.trans hfield'
  cases hcompare
  exact ⟨v, hv, hl⟩

/-- A literal of a column with a type, unless it is a null, settles what its type reads from it. -/
theorem Occurs.settles (h : Occurs text ws w vs)
    (hfield : resolver (String.ofList w.name) = .ok field) (htype : field.type = some ty)
    (hnull : ∀ word, w.literal = .bare word → isNull word = false) :
    Settles resolver text ws w vs field.column ty fun v => ty.read? w.literal.word = some v := by
  have hvalue : w.literal.value field.type = Literal.accept ty w.literal.word := by
    rw [htype]
    exact Literal.value_some hnull ty
  have hleaf (c : Condition) (hc : parse resolver text = .ok c) :
      ∃ v, ty.read? w.literal.word = some v ∧
        c.leaves[ws.length]? = some ⟨field.column, w.op, v⟩ := by
    obtain ⟨v, hv, hl⟩ := h.leaf hfield hc
    rw [hvalue, Literal.accept_eq_ok_iff] at hv
    exact ⟨v, hv, hl⟩
  obtain ⟨p, hp, hwordings⟩ := h
  refine ⟨?_, hleaf, ?_⟩
  · intro hothers v
    constructor
    · rintro ⟨c, hc, hl⟩
      obtain ⟨u, hu, hl'⟩ := hleaf c hc
      cases hl.symm.trans hl'
      exact hu
    · intro hv
      have hw : w.Fits resolver := ⟨field, v, hfield, by rw [hvalue, Literal.accept_eq_ok_iff, hv]⟩
      have hfits : ∀ u ∈ p.wordings, u.Fits resolver := by
        rw [hwordings]
        intro u hu
        rcases List.mem_append.1 hu with hu | hu
        · exact hothers u (List.mem_append_left vs hu)
        · rcases List.mem_cons.1 hu with rfl | hu
          · exact hw
          · exact hothers u (List.mem_append_right ws hu)
      obtain ⟨c, hc⟩ := exists_of_fits hp hfits
      obtain ⟨u, hu, hl⟩ := hleaf c hc
      cases hu.symm.trans hv
      exact ⟨c, hc, hl⟩
  · intro hmeans
    refine ⟨?_, ?_⟩
    · intro c hc
      obtain ⟨v, hv, -⟩ := hleaf c hc
      exact hmeans v hv
    · intro hws
      rw [Literal.accept_eq_error hmeans] at hvalue
      exact parse_eq_error_of_first hp hwordings hws hfield hvalue

end SearchFilter.Filter
