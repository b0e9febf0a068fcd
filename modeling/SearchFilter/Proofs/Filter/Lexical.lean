import SearchFilter.Proofs.Filter.Grammar

/-!
# Reading lexical items

What each reader of an item of the text takes, as an equivalence: a reader answers with a value and
a rest if and only if the text is the item followed by the rest, and the rest does not make the item
longer. The last of them is a whole comparison (`takeClause_gives_iff`).
-/

namespace SearchFilter.Filter

open Text

/-- The answer is this value, with this text left. -/
def Answer.Gives {α : Type} {s : List Char} (a : Answer α s) (v : α) (rest : List Char) : Prop :=
  ∃ h, a = .ok ⟨v, rest, h⟩

variable {s rest : List Char}

/-! ## Blanks -/

theorem startsOutside_skipBlanks (s : List Char) : StartsOutside isBlank (skipBlanks s) :=
  startsOutside_dropWhile isBlank s

theorem skipBlanks_of_startsOutside (h : StartsOutside isBlank s) : skipBlanks s = s :=
  dropWhile_of_startsOutside h

@[simp] theorem skipBlanks_append (b : Blanks) (s : List Char) :
    skipBlanks (b ++ s) = skipBlanks s := List.dropWhile_append_of_pos b.2

theorem skipBlanks_append_of_startsOutside (b : Blanks) (h : StartsOutside isBlank s) :
    skipBlanks (b ++ s) = s := (skipBlanks_append b s).trans (skipBlanks_of_startsOutside h)

theorem skipBlanks_append_cons (b : Blanks) {c : Char} (hc : isBlank c = false) (s : List Char) :
    skipBlanks (b ++ c :: s) = c :: s :=
  skipBlanks_append_of_startsOutside b (startsOutside_cons.2 hc)

@[simp] theorem skipBlanks_skipBlanks (s : List Char) : skipBlanks (skipBlanks s) = skipBlanks s :=
  skipBlanks_of_startsOutside (startsOutside_skipBlanks s)

@[simp] theorem skipBlanks_mark (join : Conjunction) (s : List Char) :
    skipBlanks (mark join :: s) = mark join :: s :=
  skipBlanks_of_startsOutside (by simp)

@[simp] theorem Phrase.skipBlanks_text {level : Level} (p : Phrase level) (rest : List Char) :
    skipBlanks (p.text ++ rest) = p.text ++ rest :=
  skipBlanks_of_startsOutside (p.startsOutside_text rest)

theorem startsOutside_blanks_append {p : Char → Bool} (hp : ∀ c, isBlank c = true → p c = false)
    (b : Blanks) (hs : StartsOutside p s) : StartsOutside p (b ++ s) := by
  obtain ⟨_ | ⟨c, b⟩, hb⟩ := b
  · exact hs
  · exact startsOutside_cons.2 (hp c (hb c (by simp)))

/-- What is skipped is a run of blanks. -/
theorem exists_blanks (s : List Char) : ∃ b : Blanks, s = b ++ skipBlanks s :=
  ⟨⟨s.takeWhile isBlank, fun _ hc => List.mem_takeWhile_imp hc⟩,
    List.takeWhile_append_dropWhile.symm⟩

/-! ## Marks -/

/-- What comes next stands in the text between blanks. -/
theorem exists_blanks_mark {m : Char} {t : List Char} (h : skipBlanks s = m :: t) :
    ∃ before after : Blanks, s = before ++ m :: (after ++ skipBlanks t) ∧
      (skipBlanks t).length < s.length := by
  obtain ⟨before, hbefore⟩ := exists_blanks s
  obtain ⟨after, hafter⟩ := exists_blanks t
  rw [h] at hbefore
  refine ⟨before, after, by rw [← hafter, ← hbefore], ?_⟩
  have hlength := length_skipBlanks_le t
  rw [hbefore, List.length_append, List.length_cons]
  omega

theorem takeMark?_eq_some_iff {m : Char} {t : List Char} :
    (∃ h, takeMark? m s = some ⟨t, h⟩) ↔ ∃ u, skipBlanks s = m :: u ∧ t = skipBlanks u := by
  unfold takeMark?
  split
  next c u hs =>
    split
    · next hc =>
      subst hc
      constructor
      · rintro ⟨h, ht⟩
        cases ht
        exact ⟨u, hs, rfl⟩
      · rintro ⟨v, hv, rfl⟩
        rw [hs, List.cons.injEq] at hv
        obtain ⟨-, rfl⟩ := hv
        obtain ⟨_, _, -, hlt⟩ := exists_blanks_mark hs
        exact ⟨hlt, rfl⟩
    · next hc => simp [hs, hc]
  next hs => simp [hs]

theorem takeMark?_eq_none_iff {m : Char} :
    takeMark? m s = none ↔ (skipBlanks s).head? ≠ some m := by
  unfold takeMark?
  split
  next c u hs => simp [hs]
  next hs => simp [hs]

/-! ## Runs -/

theorem takeRun_gives_iff {p : Char → Bool} {w : List Char} :
    (takeRun p s).Gives w rest ↔
      s = w ++ rest ∧ w ≠ [] ∧ (∀ c ∈ w, p c = true) ∧ StartsOutside p rest := by
  constructor
  · rintro ⟨h, hw⟩
    unfold takeRun at hw
    split at hw
    · next hne =>
      cases hw
      exact ⟨List.takeWhile_append_dropWhile.symm, hne, fun _ hc => List.mem_takeWhile_imp hc,
        startsOutside_dropWhile p s⟩
    · cases hw
  · rintro ⟨rfl, hne, hp, hrest⟩
    have htake := takeWhile_run hp hrest
    have hdrop := dropWhile_run hp hrest
    have hlen : rest.length < (w ++ rest).length := by
      rw [List.length_append]
      have := List.length_pos_iff.2 hne
      omega
    refine ⟨hlen, ?_⟩
    unfold takeRun
    rw [dif_pos (by rw [htake]; exact hne)]
    simp only [htake, hdrop]

/-! ## Operators -/

theorem takeOperator_gives_iff {op : Comparator} :
    (takeOperator s).Gives op rest ↔
      s = op.spelling ++ rest ∧ (op = .lt ∨ op = .gt → ∀ t, rest ≠ '=' :: t) := by
  constructor
  · rintro ⟨h, hop⟩
    unfold takeOperator at hop
    split at hop <;> cases hop <;> simp_all [Comparator.spelling]
  · rintro ⟨rfl, hrest⟩
    cases op with
    | eq | neq | lte | gte => exact ⟨_, rfl⟩
    | lt =>
      refine ⟨length_lt_cons .., ?_⟩
      change takeOperator ('<' :: rest) = _
      rw [takeOperator]
      · rfl
      · exact hrest (.inl rfl)
    | gt =>
      refine ⟨length_lt_cons .., ?_⟩
      change takeOperator ('>' :: rest) = _
      rw [takeOperator]
      · rfl
      · exact hrest (.inr rfl)

/-! ## Literals -/

theorem takeQuoted?_eq_some_iff {t : List Char} :
    takeQuoted? s = some (t, rest) ↔ s = t ++ '\'' :: rest ∧ '\'' ∉ t := by
  constructor
  · intro h
    have hs := List.takeWhile_append_dropWhile (p := (· != '\'')) (l := s)
    have hstart := startsOutside_dropWhile (· != '\'') s
    unfold takeQuoted? at h
    split at h
    · cases h
    · next c r hd =>
      cases h
      rw [hd, startsOutside_cons, bne_eq_false_iff_eq] at hstart
      rw [hd, hstart] at hs
      refine ⟨hs.symm, ?_⟩
      intro hq
      have hne := List.mem_takeWhile_imp hq
      simp at hne
  · rintro ⟨rfl, ht⟩
    have hp : ∀ c ∈ t, (c != '\'') = true := by
      intro c hc
      rw [bne_iff_ne]
      rintro rfl
      exact ht hc
    have hrest : StartsOutside (· != '\'') ('\'' :: rest) := by simp
    unfold takeQuoted?
    rw [takeWhile_run hp hrest, dropWhile_run hp hrest]

/-- What may follow a literal: a bare word would go on with another character of a word. -/
def Literal.Stops (rest : List Char) : Literal → Prop
  | .quoted _ => True
  | .bare _ => StartsOutside isWordChar rest

theorem Literal.stops_of_startsOutside (h : StartsOutside isWordChar rest) (l : Literal) :
    l.Stops rest := by
  cases l with
  | quoted t => trivial
  | bare w => exact h

theorem takeLiteral_gives_iff {l : Literal} :
    (takeLiteral s).Gives l rest ↔ s = l.text ++ rest ∧ l.WellFormed ∧ l.Stops rest := by
  constructor
  · rintro ⟨h, hl⟩
    unfold takeLiteral at hl
    split at hl
    · next u =>
      split at hl
      · next t r ht =>
        cases hl
        obtain ⟨rfl, hq⟩ := takeQuoted?_eq_some_iff.1 ht
        exact ⟨by simp [Literal.text], hq, trivial⟩
      · cases hl
    · next s _ =>
      split at hl
      · next w r hw he =>
        cases hl
        obtain ⟨hs, hne, hc, hr⟩ := takeRun_gives_iff.1 ⟨hw, he⟩
        exact ⟨hs, ⟨hne, hc⟩, hr⟩
      · cases hl
  · rintro ⟨rfl, hwf, hstop⟩
    cases l with
    | quoted t =>
      have ht : takeQuoted? (t ++ '\'' :: rest) = some (t, rest) :=
        takeQuoted?_eq_some_iff.2 ⟨rfl, hwf⟩
      have htext : (Literal.quoted t).text ++ rest = '\'' :: (t ++ '\'' :: rest) := by
        simp [Literal.text]
      rw [htext]
      unfold takeLiteral
      simp only
      split
      · next t' r' ht' =>
        rw [ht] at ht'
        cases ht'
        exact ⟨_, rfl⟩
      · next hn =>
        rw [ht] at hn
        cases hn
    | bare w =>
      obtain ⟨hne, hw⟩ := hwf
      obtain ⟨h, hrun⟩ := takeRun_gives_iff.2 ⟨rfl, hne, hw, hstop⟩
      have hquote : ∀ u, w ++ rest ≠ '\'' :: u := by
        intro u hu
        obtain ⟨c, v, rfl⟩ := List.exists_cons_of_ne_nil hne
        rw [List.cons_append, List.cons.injEq] at hu
        have hc := hw c (by simp)
        rw [hu.1] at hc
        exact absurd hc (by decide)
      refine ⟨h, ?_⟩
      change takeLiteral (w ++ rest) = _
      rw [takeLiteral.eq_2 _ hquote, hrun]
      rfl

/-! ## Comparisons -/

/-- A comparison is read as a name, an operator and a literal one after the other. -/
theorem takeClause_gives_iff_items {c : Clause} :
    (takeClause s).Gives c rest ↔
      ∃ name afterName op afterOp literal afterLiteral,
        (takeRun isNameChar (skipBlanks s)).Gives name afterName ∧
        (takeOperator (skipBlanks afterName)).Gives op afterOp ∧
        (takeLiteral (skipBlanks afterOp)).Gives literal afterLiteral ∧
        c = ⟨name, op, literal, skipBlanks afterOp⟩ ∧ rest = skipBlanks afterLiteral := by
  constructor
  · rintro ⟨h, hc⟩
    unfold takeClause at hc
    split at hc
    · cases hc
    · next name afterName h₁ hname =>
      split at hc
      · cases hc
      · next op afterOp h₂ hop =>
        split at hc
        · cases hc
        · next literal afterLiteral h₃ hliteral =>
          cases hc
          exact ⟨name, afterName, op, afterOp, literal, afterLiteral, ⟨h₁, hname⟩, ⟨h₂, hop⟩,
            ⟨h₃, hliteral⟩, rfl, rfl⟩
  · rintro ⟨name, afterName, op, afterOp, literal, afterLiteral, ⟨h₁, hname⟩, ⟨h₂, hop⟩,
      ⟨h₃, hliteral⟩, rfl, rfl⟩
    unfold takeClause
    rw [hname]
    simp only
    rw [hop]
    simp only
    rw [hliteral]
    exact ⟨_, rfl⟩

namespace Wording

theorem startsOutside_spelling {p : Char → Bool} (hp : ∀ c ∈ ['!', '<', '>', '='], p c = false)
    (op : Comparator) (t : List Char) : StartsOutside p (op.spelling ++ t) := by
  cases op <;> exact startsOutside_cons.2 (hp _ (by simp))

theorem startsOutside_literal {p : Char → Bool}
    (hp : ∀ c, isWordChar c = true ∨ c = '\'' → p c = false) (w : Wording) (t : List Char) :
    StartsOutside p (w.literal.text ++ t) := by
  have hwf := w.wellFormed
  cases hl : w.literal with
  | quoted u => exact startsOutside_cons.2 (hp _ (.inr rfl))
  | bare v =>
    rw [hl] at hwf
    obtain ⟨hne, hv⟩ := hwf
    obtain ⟨c, v, rfl⟩ := List.exists_cons_of_ne_nil hne
    exact startsOutside_cons.2 (hp c (.inl (hv c (by simp))))

/-- The name ends before the operator. -/
theorem startsOutside_afterName (w : Wording) (t : List Char) :
    StartsOutside isNameChar (w.beforeOp ++ (w.op.spelling ++ t)) := by
  refine startsOutside_blanks_append ?_ _ (startsOutside_spelling (by decide) w.op t)
  intro c hc
  cases hn : isNameChar c with
  | false => rfl
  | true => rw [← isWordChar_of_isBlank hc, isWordChar_of_isNameChar hn]

/-- Blanks before the operator end at it. -/
theorem startsOutside_op (w : Wording) (t : List Char) :
    StartsOutside isBlank (w.op.spelling ++ t) := startsOutside_spelling (by decide) w.op t

/-- No equals sign follows the operator. -/
theorem startsOutside_afterOp (w : Wording) (t : List Char) :
    StartsOutside (· == '=') (w.afterOp ++ (w.literal.text ++ t)) := by
  refine startsOutside_blanks_append ?_ _ (w.startsOutside_literal ?_ t)
  · intro c hc
    rw [beq_eq_false_iff_ne]
    rintro rfl
    exact absurd hc (by decide)
  · rintro c (hc | rfl)
    · rw [beq_eq_false_iff_ne]
      rintro rfl
      exact absurd hc (by decide)
    · rfl

/-- Blanks before the literal end at it. -/
theorem startsOutside_blank_literal (w : Wording) (t : List Char) :
    StartsOutside isBlank (w.literal.text ++ t) := by
  refine w.startsOutside_literal ?_ t
  rintro c (hc | rfl)
  · exact isBlank_of_isWordChar hc
  · rfl

end Wording

/-- A comparison is read exactly where one is written, with blanks before and after it. -/
theorem takeClause_gives_iff {c : Clause} :
    (takeClause s).Gives c rest ↔
      ∃ (before after : Blanks) (w : Wording), s = before ++ (w.text ++ (after ++ rest)) ∧
        c = w.clause (after ++ rest) ∧ w.literal.Stops (after ++ rest) ∧
        StartsOutside isBlank rest := by
  rw [takeClause_gives_iff_items]
  constructor
  · rintro ⟨name, afterName, op, afterOp, literal, afterLiteral, hname, hop, hliteral, rfl, rfl⟩
    obtain ⟨hs, hne, hchars, -⟩ := takeRun_gives_iff.1 hname
    obtain ⟨hs', -⟩ := takeOperator_gives_iff.1 hop
    obtain ⟨hs'', hwf, hstop⟩ := takeLiteral_gives_iff.1 hliteral
    obtain ⟨before, hbefore⟩ := exists_blanks s
    obtain ⟨beforeOp, hbeforeOp⟩ := exists_blanks afterName
    obtain ⟨afterOp', hafterOp⟩ := exists_blanks afterOp
    obtain ⟨after, hafter⟩ := exists_blanks afterLiteral
    refine ⟨before, after, ⟨name, beforeOp, op, afterOp', literal, hne, hchars, hwf⟩, ?_, ?_, ?_,
      startsOutside_skipBlanks _⟩
    · rw [← hafter, hbefore, hs, hbeforeOp, hs', hafterOp, hs'']
      simp [Wording.text]
    · rw [← hafter, hs'']
      rfl
    · rwa [← hafter]
  · rintro ⟨before, after, w, rfl, rfl, hstop, hrest⟩
    have hname : StartsOutside isBlank (w.text ++ (after ++ rest)) :=
      (Phrase.clause w).startsOutside_text _
    have hliteral := w.startsOutside_blank_literal (after ++ rest)
    refine ⟨w.name,
      w.beforeOp ++ (w.op.spelling ++ (w.afterOp ++ (w.literal.text ++ (after ++ rest)))),
      w.op, w.afterOp ++ (w.literal.text ++ (after ++ rest)), w.literal, after ++ rest,
      ?_, ?_, ?_, ?_, ?_⟩
    · rw [skipBlanks_append_of_startsOutside _ hname]
      exact takeRun_gives_iff.2 ⟨by simp [Wording.text], w.name_ne_nil, w.isNameChar_of_mem,
        w.startsOutside_afterName _⟩
    · rw [skipBlanks_append_of_startsOutside _ (w.startsOutside_op _)]
      refine takeOperator_gives_iff.2 ⟨rfl, fun _ t ht => ?_⟩
      have hequal := w.startsOutside_afterOp (after ++ rest)
      rw [ht, startsOutside_cons] at hequal
      exact absurd hequal (by decide)
    · rw [skipBlanks_append_of_startsOutside _ hliteral]
      exact takeLiteral_gives_iff.2 ⟨rfl, w.wellFormed, hstop⟩
    · rw [skipBlanks_append_of_startsOutside _ hliteral]
      rfl
    · rw [skipBlanks_append_of_startsOutside _ hrest]

end SearchFilter.Filter
