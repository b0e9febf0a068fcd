import SearchFilter.Proofs.Filter.Recognition
import SearchFilter.Proofs.Filter.Resolution

/-!
# Printing conditions

`Prints` says how a condition may be printed as a filter text: `&` binds more tightly than `|`,
both associate to the left, parentheses stand at least where this asks for them, and blanks
anywhere between two items. A printed condition is parsed back (`parse_of_prints`) if every
comparison is.

The rule of `Prints` for a conjunction is recursive on the left and that of `Phrase` on the right.
`Phrase.concat` puts an operand at the end of a chain, and `Yields` says of a chain what its
operands resolve to, before they are joined.
-/

namespace SearchFilter.Filter

open Text

/-- The ways to print a condition at a level of the grammar, where `writes c s` says that `s` is a
way to print the comparison `c`. -/
inductive Prints (writes : Comparison → List Char → Prop) :
    Level → Condition → List Char → Prop where
  | comparison {c : Comparison} {s : List Char} (h : writes c s) : Prints writes .item (.leaf c) s
  | parens {c : Condition} {s : List Char} (before after : Blanks) (h : Prints writes .whole c s) :
      Prints writes .item c ('(' :: (before ++ (s ++ (after ++ [')']))))
  | operand {join : Conjunction} {c : Condition} {s : List Char}
      (h : Prints writes (.operand join) c s) : Prints writes (.chain join) c s
  | join {join : Conjunction} {l r : Condition} {s t : List Char} (before after : Blanks)
      (hl : Prints writes (.chain join) l s) (hr : Prints writes (.operand join) r t) :
      Prints writes (.chain join) (.node l join r) (s ++ (before ++ mark join :: (after ++ t)))

namespace Prints

variable {writes : Comparison → List Char → Prop} {c : Condition} {s : List Char}

/-- An item is a chain of any level. -/
theorem of_item (h : Prints writes .item c s) : {level : Level} → Prints writes level c s
  | .item => h
  | .chain .and => .operand h
  | .chain .or => .operand (.operand h)

theorem whole_of_chain : {join : Conjunction} → Prints writes (.chain join) c s →
    Prints writes .whole c s
  | .and, h => .operand h
  | .or, h => h

/-- A condition can be printed if its comparisons can: parentheses may stand around every
operand. -/
theorem exists_of_leaves (h : ∀ d ∈ c.leaves, ∃ s, writes d s) : ∃ s, Prints writes .whole c s := by
  induction c with
  | leaf d =>
    obtain ⟨s, hs⟩ := h d (by simp [Condition.leaves])
    exact ⟨s, of_item (.comparison hs)⟩
  | node l join r ihl ihr =>
    simp only [Condition.leaves, List.mem_append] at h
    obtain ⟨s, hs⟩ := ihl fun d hd => h d (.inl hd)
    obtain ⟨t, ht⟩ := ihr fun d hd => h d (.inr hd)
    have hl : Prints writes .item l _ := .parens .empty .empty hs
    have hr : Prints writes .item r _ := .parens .empty .empty ht
    exact ⟨_, whole_of_chain (.join .empty .empty (of_item hl) (of_item hr))⟩

end Prints

/-! ## Chains that grow at the end -/

namespace Phrase

variable {join : Conjunction}

/-- A chain with a further operand at its end. -/
def concat : Phrase (.chain join) → Blanks → Blanks → Phrase (.operand join) → Phrase (.chain join)
  | .one p, before, after, q => .more p before after (.one q)
  | .more p before' after' ps, before, after, q => .more p before' after' (ps.concat before after q)

theorem text_concat (p : Phrase (.chain join)) (before after : Blanks)
    (q : Phrase (.operand join)) :
    (p.concat before after q).text = p.text ++ (before ++ mark join :: (after ++ q.text)) := by
  fun_induction concat p before after q with
  | case1 p before after q => rfl
  | case2 p before' after' ps before after q ih => simp [text, ih]

theorem filters_concat (p : Phrase (.chain join)) (before after : Blanks)
    (q : Phrase (.operand join)) (rest : List Char) :
    (p.concat before after q).filters rest =
      p.filters (before ++ mark join :: (after ++ (q.text ++ rest))) ++ [q.filter rest] := by
  fun_induction concat p before after q with
  | case1 p before after q => simp [filters, text]
  | case2 p before' after' ps before after q ih => simp [filters, ih, text_concat]

end Phrase

/-! ## Reading what is printed -/

variable {source : List Char} {resolver : Resolver} {writes : Comparison → List Char → Prop}

/-- Whatever follows the phrase, its filter resolves to the condition. Of a chain, the operands
resolve to conditions that are joined to it. -/
def Yields (source : List Char) (resolver : Resolver) :
    {level : Level} → Phrase level → Condition → Prop
  | .item, p, c => ∀ rest, (p.filter rest).resolve source resolver = .ok c
  | .chain join, p, c => ∀ rest, ∃ cs,
      List.Forall₂ (fun f c => f.resolve source resolver = .ok c) (p.filters rest) cs ∧
        Condition.join? join cs = some c

theorem Yields.resolve {level : Level} {p : Phrase level} {c : Condition}
    (h : Yields source resolver p c) (rest : List Char) :
    (p.filter rest).resolve source resolver = .ok c := by
  match level, p, h with
  | .item, p, h => exact h rest
  | .chain join, p, h =>
    rw [Phrase.filter_eq_chain, resolve_chain_eq_ok_iff]
    exact h rest

/-- However a comparison is written, the grammar has it, and it is read back whatever follows it. -/
def ReadsBack (source : List Char) (resolver : Resolver)
    (writes : Comparison → List Char → Prop) (c : Comparison) : Prop :=
  ∀ s, writes c s → ∃ w : Wording, w.text = s ∧
    ∀ rest, (w.clause rest).resolve source resolver = .ok (.leaf c)

/-- What is printed is a derived text, and the derivation yields the condition. -/
theorem Prints.exists_phrase {level : Level} {c : Condition} {s : List Char}
    (h : Prints writes level c s) (hleaves : ∀ d ∈ c.leaves, ReadsBack source resolver writes d) :
    ∃ p : Phrase level, p.text = s ∧ Yields source resolver p c := by
  induction h with
  | @comparison d s h =>
    obtain ⟨w, rfl, hw⟩ := hleaves d (by simp [Condition.leaves]) s h
    refine ⟨.clause w, rfl, ?_⟩
    intro rest
    rw [Phrase.filter, Filter.resolve]
    exact hw rest
  | parens before after h ih =>
    obtain ⟨p, rfl, hp⟩ := ih hleaves
    refine ⟨.group before p after, rfl, ?_⟩
    intro rest
    rw [Phrase.filter]
    exact hp.resolve _
  | @operand join c s h ih =>
    obtain ⟨p, rfl, hp⟩ := ih hleaves
    refine ⟨.one p, rfl, ?_⟩
    intro rest
    refine ⟨[c], ?_, rfl⟩
    rw [Phrase.filters]
    exact .cons (hp.resolve rest) .nil
  | @join join l r s t before after hl hr ihl ihr =>
    simp only [Condition.leaves, List.mem_append] at hleaves
    obtain ⟨p, rfl, hp⟩ := ihl fun d hd => hleaves d (.inl hd)
    obtain ⟨q, rfl, hq⟩ := ihr fun d hd => hleaves d (.inr hd)
    refine ⟨p.concat before after q, p.text_concat before after q, ?_⟩
    intro rest
    obtain ⟨cs, hcs, hjoin⟩ := hp (before ++ mark join :: (after ++ (q.text ++ rest)))
    refine ⟨cs ++ [r], ?_, Condition.join?_concat hjoin⟩
    rw [Phrase.filters_concat]
    exact List.rel_append hcs (.cons (hq.resolve rest) .nil)

/-- A printed condition is parsed back, with white space around it or not. -/
theorem parse_of_prints {c : Condition} {s : List Char} (h : Prints writes .whole c s)
    (hleaves : ∀ d ∈ c.leaves, ReadsBack s resolver writes d) {before after : List Char}
    (hb : AllWhiteSpace before) (ha : AllWhiteSpace after) :
    parse resolver (String.ofList (before ++ s ++ after)) = .ok c := by
  obtain ⟨p, rfl, hp⟩ := h.exists_phrase hleaves
  have htrim : trim (String.ofList (before ++ p.text ++ after)).toList = p.text := by
    rw [String.toList_ofList, trim_append hb ha, p.trimmed_text.trim_eq]
  rw [parse_eq_ok_iff, htrim]
  exact ⟨p, rfl, hp.resolve []⟩

end SearchFilter.Filter
