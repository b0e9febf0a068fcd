import SearchFilter.Proofs.Filter.Lexical

/-!
# Readers and derivations

The rules of the reader as equivalences, one for an item and one for a chain. The loop over the
operands of a chain is the relation `More`. By recursion on the reader, whatever it takes is
derived (`derives_of_gives`), and what it leaves would make the phrase no longer (`Phrase.Ends`).
-/

namespace SearchFilter.Filter

open Text

variable {s rest : List Char} {f : Filter} {join : Conjunction}

/-! ## The rules of the reader -/

/-- An item is read as a group if a parenthesis comes next, and else as a comparison. -/
theorem take_item_gives_iff :
    (take .item s).Gives f rest ↔
      (∃ t r u, skipBlanks s = '(' :: t ∧ (take .whole (skipBlanks t)).Gives f r ∧
        skipBlanks r = ')' :: u ∧ rest = skipBlanks u) ∨
      ((skipBlanks s).head? ≠ some '(' ∧ ∃ c, (takeClause s).Gives c rest ∧ f = .clause c) := by
  rw [← takeMark?_eq_none_iff]
  constructor
  · rintro ⟨h, hf⟩
    rw [take] at hf
    split at hf
    · next t ht hmark =>
      obtain ⟨t, hopen, rfl⟩ := takeMark?_eq_some_iff.1 ⟨ht, hmark⟩
      split at hf
      · cases hf
      · next g r hr hbody =>
        split at hf
        · next v hv hclose =>
          cases hf
          obtain ⟨u, hu, hrest⟩ := takeMark?_eq_some_iff.1 ⟨hv, hclose⟩
          exact .inl ⟨t, r, u, hopen, ⟨hr, hbody⟩, hu, hrest⟩
        · cases hf
    · next hmark =>
      split at hf
      · cases hf
      · next c r hr hc =>
        cases hf
        exact .inr ⟨hmark, c, ⟨hr, hc⟩, rfl⟩
  · rintro (⟨t, r, u, hopen, ⟨hr, hbody⟩, hclose, rfl⟩ | ⟨hmark, c, ⟨hr, hc⟩, rfl⟩)
    · obtain ⟨ht, hmark⟩ := takeMark?_eq_some_iff.2 ⟨t, hopen, rfl⟩
      obtain ⟨hu, hmark'⟩ := takeMark?_eq_some_iff.2 ⟨u, hclose, rfl⟩
      rw [take, hmark]
      simp only [hbody, hmark']
      exact ⟨_, rfl⟩
    · rw [take, hmark]
      simp only [hc]
      exact ⟨_, rfl⟩

/-- How a chain is read on: `More join done s f rest` says that with the operands `done` read, the
last one first, and `s` left, the chain is `f` with `rest` left in the end. -/
inductive More (join : Conjunction) : List Filter → List Char → Filter → List Char → Prop where
  | stop {done : List Filter} {s : List Char} (h : (skipBlanks s).head? ≠ some (mark join)) :
      More join done s (chain join done.reverse) s
  | step {done : List Filter} {s t r rest : List Char} {g f : Filter}
      (hmark : skipBlanks s = mark join :: t)
      (hoperand : (take (.operand join) (skipBlanks t)).Gives g r)
      (hmore : More join (g :: done) r f rest) : More join done s f rest

theorem more_of_takeMore {done : List Filter} {r : List Char} {h : r.length < s.length}
    (hf : (takeMore join s done r h).Gives f rest) : More join done r f rest := by
  obtain ⟨_, hf⟩ := hf
  rw [takeMore] at hf
  split at hf
  · next hmark =>
    cases hf
    exact .stop (takeMark?_eq_none_iff.1 hmark)
  · next t ht hmark =>
    obtain ⟨t, hnext, rfl⟩ := takeMark?_eq_some_iff.1 ⟨ht, hmark⟩
    split at hf
    · cases hf
    · next g u hu hoperand =>
      exact .step hnext ⟨hu, hoperand⟩ (more_of_takeMore ⟨_, hf⟩)
termination_by r.length
decreasing_by omega

theorem takeMore_gives_iff {done : List Filter} {r : List Char} (h : r.length < s.length) :
    (takeMore join s done r h).Gives f rest ↔ More join done r f rest := by
  constructor
  · exact more_of_takeMore
  intro hm
  induction hm with
  | @stop done r hr =>
    rw [takeMore, takeMark?_eq_none_iff.2 hr]
    exact ⟨_, rfl⟩
  | @step done r t u rest g f hmark hoperand hmore ih =>
    obtain ⟨ht, hmark'⟩ := takeMark?_eq_some_iff.2 ⟨t, hmark, rfl⟩
    obtain ⟨hu, hoperand⟩ := hoperand
    rw [takeMore, hmark']
    simp only [hoperand]
    exact ih _

/-- A chain is read as an operand and then on. -/
theorem take_chain_gives_iff :
    (take (.chain join) s).Gives f rest ↔
      ∃ g r, (take (.operand join) s).Gives g r ∧ More join [g] r f rest := by
  constructor
  · rintro ⟨h, hf⟩
    rw [take] at hf
    split at hf
    · cases hf
    · next g r hr hg => exact ⟨g, r, ⟨hr, hg⟩, more_of_takeMore ⟨h, hf⟩⟩
  · rintro ⟨g, r, ⟨hr, hg⟩, hmore⟩
    rw [take, hg]
    exact (takeMore_gives_iff hr).2 hmore

/-! ## Where a phrase ends -/

/-- The conjunctions with which a phrase of a level, or a phrase at its end, could go on. -/
def Level.joins : Level → List Conjunction
  | .item => []
  | .chain .and => [.and]
  | .chain .or => [.or, .and]

theorem Level.joins_chain (join : Conjunction) :
    (chain join).joins = join :: (operand join).joins := by cases join <;> rfl

namespace Phrase

/-- The last literal of a phrase stops before the rest. -/
def Stops : {level : Level} → Phrase level → List Char → Prop
  | _, .clause w, rest => w.literal.Stops rest
  | _, .group _ _ _, _ => True
  | _, .one p, rest => p.Stops rest
  | _, .more _ _ _ ps, rest => ps.Stops rest

/-- The rest makes a phrase no longer. -/
structure Ends {level : Level} (p : Phrase level) (rest : List Char) : Prop where
  stops : p.Stops rest
  marks : ∀ join ∈ level.joins, (skipBlanks rest).head? ≠ some (mark join)

namespace Ends

variable {p : Phrase (.operand join)} {ps : Phrase (.chain join)}

theorem self (h : ps.Ends rest) : (skipBlanks rest).head? ≠ some (mark join) :=
  h.marks join (by simp [Level.joins_chain])

theorem one_iff :
    (Phrase.one p).Ends rest ↔ p.Ends rest ∧ (skipBlanks rest).head? ≠ some (mark join) := by
  refine ⟨fun h => ⟨⟨h.stops, ?_⟩, h.self⟩, fun h => ⟨h.1.stops, ?_⟩⟩
  · intro j hj
    exact h.marks j (by rw [Level.joins_chain]; exact List.mem_cons_of_mem _ hj)
  · rw [Level.joins_chain]
    exact List.forall_mem_cons.2 ⟨h.2, h.1.marks⟩

theorem more_iff {before after : Blanks} :
    (Phrase.more p before after ps).Ends rest ↔ ps.Ends rest :=
  ⟨fun h => ⟨h.stops, h.marks⟩, fun h => ⟨h.stops, h.marks⟩⟩

end Ends

end Phrase

/-! ## What is read is derived -/

/-- The text begins with a derivation of the filter, with blanks around it, and the rest makes it no
longer. -/
def Derives (level : Level) (s : List Char) (f : Filter) (rest : List Char) : Prop :=
  ∃ (before after : Blanks) (p : Phrase level), s = before ++ (p.text ++ (after ++ rest)) ∧
    f = p.filter (after ++ rest) ∧ p.Ends (after ++ rest) ∧ StartsOutside isBlank rest

/-- Reading a chain on either stops at once or finds the rest of a chain. -/
theorem More.exists_phrase {done : List Filter} (h : More join done s f rest) {n : Nat}
    (hn : s.length ≤ n)
    (hoperand : ∀ {t g r}, t.length < n → (take (.operand join) t).Gives g r →
      Derives (.operand join) t g r) :
    (f = chain join done.reverse ∧ rest = s ∧ (skipBlanks s).head? ≠ some (mark join)) ∨
      ∃ (before after final : Blanks) (ps : Phrase (.chain join)),
        s = before ++ mark join :: (after ++ (ps.text ++ (final ++ rest))) ∧
        f = chain join (done.reverse ++ ps.filters (final ++ rest)) ∧
        ps.Ends (final ++ rest) ∧ StartsOutside isBlank rest := by
  induction h with
  | stop h => exact .inl ⟨rfl, rfl, h⟩
  | @step done s t r rest g f hmark hg hmore ih =>
    obtain ⟨before, after, hs, ht⟩ := exists_blanks_mark hmark
    obtain ⟨hr, -⟩ := id hg
    obtain ⟨lead, final, p, hp, rfl, hends, hrest⟩ := hoperand (by omega) hg
    have hs : s = before ++ mark join :: (after.append lead ++ (p.text ++ (final ++ r))) := by
      rw [hs, hp]
      simp
    right
    rcases ih (by omega) with
      ⟨rfl, rfl, hstop⟩ | ⟨before', after', final', ps, rfl, rfl, hends', hfinal⟩
    · refine ⟨before, after.append lead, final, .one p, hs, by simp [Phrase.filters], ?_, hrest⟩
      exact Phrase.Ends.one_iff.2 ⟨hends, by rwa [skipBlanks_append]⟩
    · refine ⟨before, after.append lead, final',
        .more p (final.append before') after' ps, ?_, ?_, Phrase.Ends.more_iff.2 hends', hfinal⟩
      · rw [hs]
        simp [Phrase.text]
      · simp [Phrase.filters]

/-- Whatever a level of the reader takes is derived from that level of the grammar. -/
theorem derives_of_gives {level : Level} {s rest : List Char} {f : Filter}
    (h : (take level s).Gives f rest) : Derives level s f rest := by
  match level with
  | .item =>
    rcases take_item_gives_iff.1 h with ⟨t, r, u, hopen, hbody, hclose, rfl⟩ | ⟨-, c, hc, rfl⟩
    · obtain ⟨before, afterOpen, hs, hlt⟩ := exists_blanks_mark hopen
      obtain ⟨beforeClose, after, hr, -⟩ := exists_blanks_mark hclose
      obtain ⟨lead, final, p, hp, rfl, -, -⟩ := derives_of_gives hbody
      refine ⟨before, after, .group (afterOpen.append lead) p (final.append beforeClose), ?_, ?_,
        ⟨trivial, by simp [Level.joins]⟩, startsOutside_skipBlanks u⟩
      · rw [hs, hp, hr]
        simp [Phrase.text]
      · rw [hr]
        simp [Phrase.filter]
    · obtain ⟨before, after, w, hs, rfl, hstop, hrest⟩ := takeClause_gives_iff.1 hc
      exact ⟨before, after, .clause w, hs, rfl, ⟨hstop, by simp [Level.joins]⟩, hrest⟩
  | .chain join =>
    obtain ⟨g, r, hg, hmore⟩ := take_chain_gives_iff.1 h
    obtain ⟨before, after, p, hs, rfl, hends, hr⟩ := derives_of_gives hg
    obtain ⟨hlt, -⟩ := hg
    rcases hmore.exists_phrase (Nat.le_of_lt hlt) (fun ht hread => derives_of_gives hread) with
      ⟨rfl, rfl, hstop⟩ | ⟨before', after', final, ps, rfl, rfl, hends', hrest⟩
    · exact ⟨before, after, .one p, hs, rfl,
        Phrase.Ends.one_iff.2 ⟨hends, by rwa [skipBlanks_append]⟩, hr⟩
    · refine ⟨before, final, .more p (after.append before') after' ps, ?_, ?_,
        Phrase.Ends.more_iff.2 hends', hrest⟩
      · rw [hs]
        simp [Phrase.text]
      · rw [Phrase.filter_eq_chain]
        simp [Phrase.filters]
termination_by (s.length, level.rank)
decreasing_by
  · exact Prod.Lex.left _ _ hlt
  · exact Prod.Lex.right _ (Level.rank_operand_lt join)
  · exact Prod.Lex.left _ _ ht

end SearchFilter.Filter
