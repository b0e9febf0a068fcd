import SearchFilter.Proofs.Filter.Recognition

/-!
# How reading fails

The rules of the reader as equivalences once more, now for its failures: first for the lexical
items and a comparison, which fail where an item is missing, then for the levels of the grammar,
which hand failures on. The loop over the operands of a chain fails by the relation `Breaks`.
-/

namespace SearchFilter.Filter

open Text

variable {s rest : List Char} {fault : Fault} {join : Conjunction}

/-- A reader that gives something does not fail. -/
theorem Answer.Gives.ne_error {α : Type} {a : Answer α s} {v : α} (h : a.Gives v rest)
    (e : Fault) : a ≠ .error e := by
  obtain ⟨_, rfl⟩ := h
  simp

theorem Answer.Gives.unique {α : Type} {a : Answer α s} {v v' : α} {rest' : List Char}
    (h : a.Gives v rest) (h' : a.Gives v' rest') : v = v' ∧ rest = rest' := by
  obtain ⟨_, rfl⟩ := h
  obtain ⟨_, h⟩ := h'
  cases h
  exact ⟨rfl, rfl⟩

/-! ## Lexical items -/

theorem takeRun_eq_error_iff {p : Char → Bool} :
    takeRun p s = .error fault ↔ StartsOutside p s ∧ fault = .expected .comparison s := by
  have hnil : s.takeWhile p = [] ↔ StartsOutside p s := by
    cases s with
    | nil => simp
    | cons c s => cases hc : p c <;> simp [hc]
  unfold takeRun
  split
  · next h => simp [← hnil, h]
  · next h => simp [← hnil, not_not.1 h, eq_comm]

/-- An operator is read wherever one is written, if not always the same. -/
theorem exists_takeOperator_gives (op : Comparator) (t : List Char) :
    ∃ op' rest, (takeOperator (op.spelling ++ t)).Gives op' rest := by
  by_cases h : ∃ u, t = '=' :: u ∧ (op = .lt ∨ op = .gt)
  · obtain ⟨u, rfl, rfl | rfl⟩ := h
    · exact ⟨.lte, u, takeOperator_gives_iff.2 ⟨rfl, by simp⟩⟩
    · exact ⟨.gte, u, takeOperator_gives_iff.2 ⟨rfl, by simp⟩⟩
  · refine ⟨op, t, takeOperator_gives_iff.2 ⟨rfl, fun hop u hu => ?_⟩⟩
    exact h ⟨u, hu, hop⟩

theorem takeOperator_eq_error_iff :
    takeOperator s = .error fault ↔
      (∀ (op : Comparator) t, s ≠ op.spelling ++ t) ∧ fault = .expected .comparison s := by
  constructor
  · intro h
    refine ⟨?_, ?_⟩
    · rintro op t rfl
      obtain ⟨op', rest, hgives⟩ := exists_takeOperator_gives op t
      exact hgives.ne_error _ h
    · unfold takeOperator at h
      split at h <;> cases h
      rfl
  · rintro ⟨hs, rfl⟩
    unfold takeOperator
    split
    · exact absurd rfl (hs .neq _)
    · exact absurd rfl (hs .lte _)
    · exact absurd rfl (hs .gte _)
    · exact absurd rfl (hs .eq _)
    · exact absurd rfl (hs .lt _)
    · exact absurd rfl (hs .gt _)
    · rfl

/-- A literal is read wherever one is written, if not always the same. -/
theorem exists_takeLiteral_gives {l : Literal} (hl : l.WellFormed) (t : List Char) :
    ∃ l' rest, (takeLiteral (l.text ++ t)).Gives l' rest := by
  cases l with
  | quoted u => exact ⟨_, _, takeLiteral_gives_iff.2 ⟨rfl, hl, trivial⟩⟩
  | bare w =>
    -- the word goes on as long as word characters follow
    obtain ⟨hne, hw⟩ := hl
    refine ⟨.bare (w ++ t.takeWhile isWordChar), t.dropWhile isWordChar,
      takeLiteral_gives_iff.2 ⟨?_, ⟨?_, ?_⟩, startsOutside_dropWhile _ _⟩⟩
    · simp [Literal.text]
    · simp [hne]
    · exact List.forall_mem_append.2 ⟨hw, fun c hc => List.mem_takeWhile_imp hc⟩

theorem takeLiteral_eq_error_iff :
    takeLiteral s = .error fault ↔
      (∀ (l : Literal) t, l.WellFormed → s ≠ l.text ++ t) ∧ fault = .expected .comparison s := by
  have hfault {e : Fault} (h : takeLiteral s = .error e) : e = .expected .comparison s := by
    unfold takeLiteral at h
    split at h
    · split at h <;> cases h
      rfl
    · split at h
      · cases h
      · next e' he =>
        cases h
        exact (takeRun_eq_error_iff.1 he).2
  constructor
  · intro h
    refine ⟨?_, hfault h⟩
    rintro l t hl rfl
    obtain ⟨l', rest, hgives⟩ := exists_takeLiteral_gives hl t
    exact hgives.ne_error _ h
  · rintro ⟨hs, rfl⟩
    cases h : takeLiteral s with
    | error e => rw [hfault h]
    | ok taken =>
      obtain ⟨hs', hl, -⟩ := takeLiteral_gives_iff.1 ⟨taken.shorter, h⟩
      exact absurd hs' (hs _ _ hl)

/-! ## Comparisons -/

/-- A comparison fails to be read with the first of its items that does. -/
theorem takeClause_eq_error_iff_items :
    takeClause s = .error fault ↔
      takeRun isNameChar (skipBlanks s) = .error fault ∨
      ∃ name afterName, (takeRun isNameChar (skipBlanks s)).Gives name afterName ∧
        (takeOperator (skipBlanks afterName) = .error fault ∨
        ∃ op afterOp, (takeOperator (skipBlanks afterName)).Gives op afterOp ∧
          takeLiteral (skipBlanks afterOp) = .error fault) := by
  constructor
  · intro h
    unfold takeClause at h
    split at h
    · next e he =>
      cases h
      exact .inl he
    · next name afterName h₁ hname =>
      refine .inr ⟨name, afterName, ⟨h₁, hname⟩, ?_⟩
      split at h
      · next e he =>
        cases h
        exact .inl he
      · next op afterOp h₂ hop =>
        refine .inr ⟨op, afterOp, ⟨h₂, hop⟩, ?_⟩
        split at h
        · next e he =>
          cases h
          exact he
        · cases h
  · unfold takeClause
    rintro (he | ⟨name, afterName, ⟨h₁, hname⟩, he | ⟨op, afterOp, ⟨h₂, hop⟩, he⟩⟩)
    · rw [he]
    · rw [hname]
      simp only
      rw [he]
    · rw [hname]
      simp only
      rw [hop]
      simp only
      rw [he]

/-! ## Levels -/

/-- An item fails inside its parentheses, at the end of them, or as a comparison. -/
theorem take_item_eq_error_iff :
    take .item s = .error fault ↔
      (∃ t, skipBlanks s = '(' :: t ∧ (take .whole (skipBlanks t) = .error fault ∨
        ∃ f r, (take .whole (skipBlanks t)).Gives f r ∧ (skipBlanks r).head? ≠ some ')' ∧
          fault = .expected .closingParen (skipBlanks r))) ∨
      ((skipBlanks s).head? ≠ some '(' ∧ takeClause s = .error fault) := by
  rw [← takeMark?_eq_none_iff]
  constructor
  · intro h
    rw [take] at h
    split at h
    · next t ht hmark =>
      obtain ⟨t, hopen, rfl⟩ := takeMark?_eq_some_iff.1 ⟨ht, hmark⟩
      refine .inl ⟨t, hopen, ?_⟩
      split at h
      · next e he =>
        cases h
        exact .inl he
      · next f r hr hbody =>
        split at h
        · cases h
        · next hclose =>
          cases h
          exact .inr ⟨f, r, ⟨hr, hbody⟩, takeMark?_eq_none_iff.1 hclose, rfl⟩
    · next hmark =>
      split at h
      · next e he =>
        cases h
        exact .inr ⟨hmark, he⟩
      · cases h
  · rintro (⟨t, hopen, he | ⟨f, r, ⟨hr, hbody⟩, hclose, rfl⟩⟩ | ⟨hmark, he⟩)
    · obtain ⟨ht, hmark⟩ := takeMark?_eq_some_iff.2 ⟨t, hopen, rfl⟩
      rw [take, hmark]
      simp only [he]
    · obtain ⟨ht, hmark⟩ := takeMark?_eq_some_iff.2 ⟨t, hopen, rfl⟩
      rw [take, hmark]
      simp only [hbody, takeMark?_eq_none_iff.2 hclose]
    · rw [take, hmark]
      simp only [he]

/-- How reading a chain on fails: at the operand after a conjunction, now or later. -/
inductive Breaks (join : Conjunction) : List Char → Fault → Prop where
  | operand {s t : List Char} {fault : Fault} (hmark : skipBlanks s = mark join :: t)
      (h : take (.operand join) (skipBlanks t) = .error fault) : Breaks join s fault
  | step {s t r : List Char} {g : Filter} {fault : Fault} (hmark : skipBlanks s = mark join :: t)
      (hoperand : (take (.operand join) (skipBlanks t)).Gives g r) (h : Breaks join r fault) :
      Breaks join s fault

theorem breaks_of_takeMore {done : List Filter} {r : List Char} {h : r.length < s.length}
    (he : takeMore join s done r h = .error fault) : Breaks join r fault := by
  rw [takeMore] at he
  split at he
  · cases he
  · next t ht hmark =>
    obtain ⟨t, hnext, rfl⟩ := takeMark?_eq_some_iff.1 ⟨ht, hmark⟩
    split at he
    · next e hoperand =>
      cases he
      exact .operand hnext hoperand
    · next g u hu hoperand => exact .step hnext ⟨hu, hoperand⟩ (breaks_of_takeMore he)
termination_by r.length
decreasing_by omega

theorem takeMore_eq_error_iff {done : List Filter} {r : List Char} (h : r.length < s.length) :
    takeMore join s done r h = .error fault ↔ Breaks join r fault := by
  refine ⟨breaks_of_takeMore, fun hb => ?_⟩
  induction hb generalizing done with
  | operand hmark hoperand =>
    obtain ⟨ht, hmark'⟩ := takeMark?_eq_some_iff.2 ⟨_, hmark, rfl⟩
    rw [takeMore, hmark']
    simp only [hoperand]
  | step hmark hoperand hb ih =>
    obtain ⟨ht, hmark'⟩ := takeMark?_eq_some_iff.2 ⟨_, hmark, rfl⟩
    obtain ⟨hu, hoperand⟩ := hoperand
    rw [takeMore, hmark']
    simp only [hoperand]
    exact ih _

/-- A chain fails at its first operand or later. -/
theorem take_chain_eq_error_iff :
    take (.chain join) s = .error fault ↔
      take (.operand join) s = .error fault ∨
      ∃ g r, (take (.operand join) s).Gives g r ∧ Breaks join r fault := by
  constructor
  · intro h
    rw [take] at h
    split at h
    · next e he =>
      cases h
      exact .inl he
    · next g r hr hg => exact .inr ⟨g, r, ⟨hr, hg⟩, breaks_of_takeMore h⟩
  · rintro (he | ⟨g, r, ⟨hr, hg⟩, hb⟩)
    · rw [take, he]
    · rw [take, hg]
      exact (takeMore_eq_error_iff hr).2 hb

end SearchFilter.Filter
