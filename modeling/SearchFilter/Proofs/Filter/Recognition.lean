import SearchFilter.Filter.Resolve
import SearchFilter.Proofs.Filter.Derivation

/-!
# Recognising filters

The reader takes exactly the texts that the grammar derives, and the grammar derives a text in at
most one way. Both directions that are left rest on what may follow a phrase: where a phrase ends,
the reader takes the whole of it (`found`, `take_gives_iff`), and two phrases that begin the same
text with a rest that follows a phrase of their level (`Follows`) are one
(`Phrase.eq_of_append_eq`). What the parser answers is then said by derivations alone
(`parse_eq_ok_iff`).
-/

namespace SearchFilter.Filter

open Text

variable {s rest : List Char} {f : Filter} {join : Conjunction}

/-! ## What may follow a phrase -/

/-- The rest makes no phrase of the level longer. -/
structure Follows (level : Level) (rest : List Char) : Prop where
  word : StartsOutside isWordChar rest
  marks : ∀ join ∈ level.joins, (skipBlanks rest).head? ≠ some (mark join)

namespace Follows

theorem nil (level : Level) : Follows level [] := ⟨startsOutside_nil _, by simp [skipBlanks]⟩

/-- Blanks at the end of a text. -/
theorem blanks (level : Level) (b : Blanks) : Follows level b := by
  rw [← List.append_nil (b : List Char)]
  refine ⟨startsOutside_blanks_append (fun _ => isWordChar_of_isBlank) b (startsOutside_nil _), ?_⟩
  rw [skipBlanks_append]
  simp [skipBlanks]

theorem operand (h : Follows (.chain join) rest) : Follows (.operand join) rest := by
  refine ⟨h.word, ?_⟩
  intro j hj
  apply h.marks j
  cases join with
  | and => cases hj
  | or => exact List.mem_cons_of_mem _ hj

theorem self (h : Follows (.chain join) rest) :
    (skipBlanks rest).head? ≠ some (Filter.mark join) := by
  refine h.marks join ?_
  cases join <;> exact List.mem_cons_self

/-- Every phrase of the level ends there. -/
theorem ends {level : Level} (h : Follows level rest) (p : Phrase level) : p.Ends rest := by
  refine ⟨?_, h.marks⟩
  have hword := h.word
  clear h
  induction p with
  | clause w => exact w.literal.stops_of_startsOutside hword
  | group before body after ih => trivial
  | one p ih => exact ih
  | more p before after ps ihp ihps => exact ihps

theorem closingParen (level : Level) (before : Blanks) (t : List Char) :
    Follows level (before ++ ')' :: t) := by
  refine ⟨startsOutside_blanks_append (fun _ => isWordChar_of_isBlank) _
    (startsOutside_cons.2 (by decide)), ?_⟩
  intro j _
  rw [skipBlanks_append_cons _ (by decide)]
  cases j <;> simp [Filter.mark]

theorem mark (join : Conjunction) (before : Blanks) (t : List Char) :
    Follows (.operand join) (before ++ Filter.mark join :: t) := by
  refine ⟨startsOutside_blanks_append (fun _ => isWordChar_of_isBlank) _ (by simp), ?_⟩
  intro j hj
  rw [skipBlanks_append, skipBlanks_mark]
  cases join with
  | and => cases hj
  | or =>
    cases List.mem_singleton.1 hj
    simp [Filter.mark]

end Follows

/-! ## What is derived is read -/

/-- The reader takes the phrase where `rest` follows it. For a chain this is said of a chain that
is read on, whatever operands came before. -/
def Found : {level : Level} → Phrase level → List Char → Prop
  | .item, p, rest =>
    ∀ before : Blanks,
      (take .item (before ++ (p.text ++ rest))).Gives (p.filter rest) (skipBlanks rest)
  | .chain join, p, rest =>
    ∀ (before : Blanks) (done : List Filter), ∃ g r,
      (take (.operand join) (before ++ (p.text ++ rest))).Gives g r ∧
        More join (g :: done) r (chain join (done.reverse ++ p.filters rest)) (skipBlanks rest)

theorem Found.gives {level : Level} {p : Phrase level} (h : Found p rest) (before : Blanks) :
    (take level (before ++ (p.text ++ rest))).Gives (p.filter rest) (skipBlanks rest) := by
  match level, p, h with
  | .item, p, h => exact h before
  | .chain join, p, h =>
    rw [take_chain_gives_iff, Phrase.filter_eq_chain]
    exact h before []

theorem found {level : Level} (p : Phrase level) (rest : List Char) (h : p.Ends rest) :
    Found p rest := by
  induction p generalizing rest with
  | clause w =>
    intro before
    obtain ⟨after, hafter⟩ := exists_blanks rest
    rw [take_item_gives_iff]
    refine .inr ⟨?_, w.clause rest, ?_, rfl⟩
    · obtain ⟨c, t, hw, hc⟩ := w.text_eq_cons
      rw [skipBlanks_append, Phrase.skipBlanks_text,
        Phrase.text, hw, List.cons_append, List.head?_cons]
      rintro ⟨rfl⟩
      exact absurd hc (by decide)
    · rw [takeClause_gives_iff]
      refine ⟨before, after, w, ?_, ?_, ?_, startsOutside_skipBlanks rest⟩
      · rw [← hafter]
        rfl
      · rw [← hafter]
      · rw [← hafter]
        exact h.stops
  | group before body after ih =>
    intro lead
    have hclose : StartsOutside isBlank (')' :: rest) := startsOutside_cons.2 (by decide)
    have hbody := (ih _ ((Follows.closingParen .whole after rest).ends body)).gives .empty
    rw [skipBlanks_append_of_startsOutside _ hclose] at hbody
    rw [take_item_gives_iff]
    refine .inl ⟨before ++ (body.text ++ (after ++ ')' :: rest)), ')' :: rest, rest, ?_, ?_,
      skipBlanks_of_startsOutside hclose, rfl⟩
    · rw [skipBlanks_append, Phrase.skipBlanks_text]
      simp [Phrase.text]
    · rw [skipBlanks_append, Phrase.skipBlanks_text]
      exact hbody
  | @one join p ih =>
    intro before done
    obtain ⟨hends, hself⟩ := Phrase.Ends.one_iff.1 h
    refine ⟨p.filter rest, skipBlanks rest, (ih rest hends).gives before, ?_⟩
    have hstop : More join (p.filter rest :: done) (skipBlanks rest) _ _ :=
      .stop (by rwa [skipBlanks_skipBlanks])
    simpa [Phrase.filters] using hstop
  | @more join p before after ps ihp ihps =>
    intro lead done
    have hp := (ihp _ ((Follows.mark join before (after ++ (ps.text ++ rest))).ends p)).gives lead
    obtain ⟨g, r, hg, hmore⟩ := ihps rest (Phrase.Ends.more_iff.1 h) .empty
      (p.filter (before ++ mark join :: (after ++ (ps.text ++ rest))) :: done)
    have htext : (Phrase.more p before after ps).text ++ rest =
        p.text ++ (before ++ mark join :: (after ++ (ps.text ++ rest))) := by simp [Phrase.text]
    have hg' : (take (.operand join) (skipBlanks (after ++ (ps.text ++ rest)))).Gives g r := by
      rw [skipBlanks_append, Phrase.skipBlanks_text]
      exact hg
    rw [skipBlanks_append, skipBlanks_mark] at hp
    rw [htext]
    exact ⟨_, _, hp, .step (skipBlanks_mark join _) hg' (by simpa [Phrase.filters] using hmore)⟩

/-- What a level of the reader takes, and what it leaves. -/
theorem take_gives_iff {level : Level} :
    (take level s).Gives f rest ↔ Derives level s f rest := by
  refine ⟨derives_of_gives, ?_⟩
  rintro ⟨before, after, p, rfl, rfl, hends, hrest⟩
  have h := (found p _ hends).gives before
  rwa [skipBlanks_append_of_startsOutside _ hrest] at h

/-! ## Derivations are unique -/

theorem spelling_append_eq {op op' : Comparator} {t t' : List Char}
    (ht : StartsOutside (· == '=') t) (ht' : StartsOutside (· == '=') t')
    (h : op.spelling ++ t = op'.spelling ++ t') :
    op = op' ∧ t = t' := by
  cases op <;> cases op' <;> simp_all [Comparator.spelling]
  all_goals
    subst h
    exact absurd (startsOutside_cons.1 ht') (by decide)

theorem Literal.text_append_eq {l l' : Literal} (hl : l.WellFormed) (hl' : l'.WellFormed)
    {t t' : List Char} (ht : StartsOutside isWordChar t) (ht' : StartsOutside isWordChar t')
    (h : l.text ++ t = l'.text ++ t') : l = l' ∧ t = t' := by
  have hread := takeLiteral_gives_iff.2 ⟨rfl, hl, l.stops_of_startsOutside ht⟩
  have hread' := takeLiteral_gives_iff.2 ⟨rfl, hl', l'.stops_of_startsOutside ht'⟩
  rw [← h] at hread'
  obtain ⟨_, he⟩ := hread
  obtain ⟨_, he'⟩ := hread'
  rw [he] at he'
  cases he'
  exact ⟨rfl, rfl⟩

/-- Blanks before a text that does not begin with one are determined. -/
theorem Blanks.append_eq {b b' : Blanks} {t t' : List Char} (ht : StartsOutside isBlank t)
    (ht' : StartsOutside isBlank t') (h : (b : List Char) ++ t = b' ++ t') : b = b' ∧ t = t' := by
  obtain ⟨hb, hrest⟩ := eq_and_eq_of_run b.2 ht b'.2 ht' h
  exact ⟨Subtype.ext hb, hrest⟩

theorem Wording.text_append_eq {w w' : Wording} {t t' : List Char}
    (ht : StartsOutside isWordChar t) (ht' : StartsOutside isWordChar t')
    (h : w.text ++ t = w'.text ++ t') : w = w' ∧ t = t' := by
  simp only [Wording.text, List.append_assoc] at h
  obtain ⟨hname, h₁⟩ := eq_and_eq_of_run w.isNameChar_of_mem (w.startsOutside_afterName _)
    w'.isNameChar_of_mem (w'.startsOutside_afterName _) h
  obtain ⟨hbefore, h₂⟩ := Blanks.append_eq (w.startsOutside_op _) (w'.startsOutside_op _) h₁
  obtain ⟨hop, h₃⟩ :=
    spelling_append_eq (w.startsOutside_afterOp _) (w'.startsOutside_afterOp _) h₂
  obtain ⟨hafter, h₄⟩ := Blanks.append_eq (w.startsOutside_blank_literal _)
    (w'.startsOutside_blank_literal _) h₃
  obtain ⟨hliteral, h₅⟩ := Literal.text_append_eq w.wellFormed w'.wellFormed ht ht' h₄
  refine ⟨?_, h₅⟩
  cases w
  cases w'
  simp_all

/-- Of two phrases that begin the same text and are not made longer by what follows them, both are
the same. -/
theorem Phrase.eq_of_append_eq {level : Level} (p q : Phrase level) {t t' : List Char}
    (ht : Follows level t) (ht' : Follows level t') (h : p.text ++ t = q.text ++ t') :
    p = q ∧ t = t' := by
  induction p generalizing t t' with
  | clause w =>
    cases q with
    | clause w' =>
      obtain ⟨rfl, rfl⟩ := Wording.text_append_eq ht.word ht'.word h
      exact ⟨rfl, rfl⟩
    | group before body after =>
      obtain ⟨c, u, hw, hc⟩ := w.text_eq_cons
      rw [text, text, hw, List.cons_append, List.cons_append, List.cons.injEq] at h
      rw [h.1] at hc
      exact absurd hc (by decide)
  | group before body after ih =>
    cases q with
    | clause w =>
      obtain ⟨c, u, hw, hc⟩ := w.text_eq_cons
      rw [text, text, hw, List.cons_append, List.cons_append, List.cons.injEq] at h
      rw [← h.1] at hc
      exact absurd hc (by decide)
    | group before' body' after' =>
      have hclose (u : List Char) : StartsOutside isBlank (')' :: u) :=
        startsOutside_cons.2 (by decide)
      simp only [text, List.cons_append, List.append_assoc, List.nil_append, List.cons.injEq,
        true_and] at h
      obtain ⟨hbefore, h₁⟩ := Blanks.append_eq (startsOutside_text _ _) (startsOutside_text _ _) h
      obtain ⟨hbody, h₂⟩ := ih body' (.closingParen _ _ _) (.closingParen _ _ _) h₁
      obtain ⟨hafter, h₃⟩ := Blanks.append_eq (hclose t) (hclose t') h₂
      rw [List.cons.injEq] at h₃
      exact ⟨by rw [hbefore, hbody, hafter], h₃.2⟩
  | @one join p ih =>
    cases q with
    | one q =>
      obtain ⟨rfl, rfl⟩ := ih q ht.operand ht'.operand h
      exact ⟨rfl, rfl⟩
    | more q before after qs =>
      simp only [text, List.append_assoc, List.cons_append] at h
      obtain ⟨rfl, rfl⟩ := ih q ht.operand (.mark _ _ _) h
      exact absurd (by rw [skipBlanks_append, skipBlanks_mark, List.head?_cons]) ht.self
  | @more join p before after ps ihp ihps =>
    cases q with
    | one q =>
      simp only [text, List.append_assoc, List.cons_append] at h
      obtain ⟨rfl, rfl⟩ := ihp q (.mark _ _ _) ht'.operand h
      exact absurd (by rw [skipBlanks_append, skipBlanks_mark, List.head?_cons]) ht'.self
    | more q before' after' qs =>
      simp only [text, List.append_assoc, List.cons_append] at h
      have hmark (u : List Char) : StartsOutside isBlank (mark join :: u) := by simp
      obtain ⟨hp, h₁⟩ := ihp q (.mark _ _ _) (.mark _ _ _) h
      obtain ⟨hbefore, h₂⟩ := Blanks.append_eq (hmark _) (hmark _) h₁
      rw [List.cons.injEq] at h₂
      obtain ⟨hafter, h₃⟩ :=
        Blanks.append_eq (startsOutside_text _ _) (startsOutside_text _ _) h₂.2
      obtain ⟨hps, hrest⟩ := ihps qs ht ht' h₃
      exact ⟨by rw [hp, hbefore, hafter, hps], hrest⟩

theorem Phrase.text_injective {level : Level} {p q : Phrase level} (h : p.text = q.text) : p = q :=
  (eq_of_append_eq p q (.nil level) (.nil level) (by rw [h])).1

/-! ## Whole texts -/

/-- Blanks do not begin a trimmed text. -/
theorem Blanks.eq_empty_of_trimmed {b : Blanks} {t : List Char} (h : Trimmed (b ++ t)) :
    b = .empty := by
  obtain ⟨_ | ⟨c, b⟩, hb⟩ := b
  · rfl
  · have hc := h.start
    rw [List.cons_append, startsOutside_cons, isWhiteSpace_of_isBlank (hb c (by simp))] at hc
    cases hc

/-- A text that white space neither begins nor ends has no blanks around a phrase. -/
theorem blanks_eq_empty_of_trimmed {before after : Blanks} {t : List Char}
    (h : Trimmed (before ++ (t ++ after))) : before = .empty ∧ after = .empty := by
  refine ⟨Blanks.eq_empty_of_trimmed h, ?_⟩
  obtain ⟨a, ha⟩ := after
  rcases List.eq_nil_or_concat a with rfl | ⟨a, c, rfl⟩
  · rfl
  · have hc := h.finish
    simp only [List.concat_eq_append, List.reverse_append, List.reverse_singleton,
      List.cons_append, startsOutside_cons] at hc
    rw [isWhiteSpace_of_isBlank (ha c (by simp))] at hc
    cases hc

/-- A trimmed text is taken as a whole if and only if the grammar derives it. -/
theorem take_whole_gives_nil_iff (hs : Trimmed s) :
    (take .whole s).Gives f [] ↔ ∃ p : Phrase .whole, p.text = s ∧ p.filter [] = f := by
  constructor
  · intro h
    obtain ⟨before, after, p, rfl, rfl, -, -⟩ := derives_of_gives h
    rw [List.append_nil] at hs ⊢
    obtain ⟨rfl, rfl⟩ := blanks_eq_empty_of_trimmed hs
    exact ⟨p, by simp, rfl⟩
  · rintro ⟨p, rfl, rfl⟩
    have h := (found p [] ((Follows.nil .whole).ends p)).gives .empty
    rw [Blanks.coe_empty, List.nil_append, List.append_nil] at h
    exact h

theorem read_eq_ok_iff (hs : Trimmed s) :
    read s = .ok f ↔ ∃ p : Phrase .whole, p.text = s ∧ p.filter [] = f := by
  rw [← take_whole_gives_nil_iff hs, read]
  constructor
  · intro h
    split at h
    · cases h
    · split at h
      · cases h
      · next g hlt htake =>
        cases h
        exact ⟨hlt, htake⟩
      · cases h
  · rintro ⟨hlt, htake⟩
    have hne : s.isEmpty = false := by
      rw [List.isEmpty_eq_false_iff, ← List.length_pos_iff]
      exact hlt
    rw [hne, htake]
    rfl

/-- A text has a condition if the grammar derives what is left of it after trimming and the filter
of the derivation has that condition. -/
theorem parse_eq_ok_iff {resolver : Resolver} {text : String} {c : Condition} :
    parse resolver text = .ok c ↔ ∃ p : Phrase .whole, p.text = trim text.toList ∧
      (p.filter []).resolve (trim text.toList) resolver = .ok c := by
  rw [parse]
  constructor
  · intro h
    split at h
    · cases h
    · next f hread =>
      obtain ⟨p, hp, rfl⟩ := (read_eq_ok_iff (trimmed_trim _)).1 hread
      exact ⟨p, hp, h⟩
  · rintro ⟨p, hp, h⟩
    rw [(read_eq_ok_iff (trimmed_trim _)).2 ⟨p, hp, rfl⟩]
    exact h

/-- White space around a filter text changes nothing. -/
theorem parse_append_whiteSpace {before after : List Char} (hb : AllWhiteSpace before)
    (ha : AllWhiteSpace after) (resolver : Resolver) (text : String) :
    parse resolver (String.ofList (before ++ text.toList ++ after)) = parse resolver text := by
  simp only [parse, String.toList_ofList, trim_append hb ha]

/-- The reader takes a whole trimmed text if and only if the grammar derives it. It answers with
the filter of the derivation, which is the only one, and what white space is trimmed off plays no
part. -/
theorem take_whole_iff_derived (text : String) :
    ((∃ f, (take .whole (trim text.toList)).Gives f []) ↔
      ∃ p : Phrase .whole, p.text = trim text.toList) ∧
    (∀ p : Phrase .whole, p.text = trim text.toList →
      (take .whole (trim text.toList)).Gives (p.filter []) [] ∧
        ∀ q : Phrase .whole, q.text = trim text.toList → q = p) ∧
    ∀ before after : List Char, AllWhiteSpace before → AllWhiteSpace after →
      ∀ resolver, parse resolver (String.ofList (before ++ text.toList ++ after)) =
        parse resolver text := by
  have hs := trimmed_trim text.toList
  refine ⟨⟨?_, ?_⟩, ?_, ?_⟩
  · rintro ⟨f, hf⟩
    obtain ⟨p, hp, -⟩ := (take_whole_gives_nil_iff hs).1 hf
    exact ⟨p, hp⟩
  · rintro ⟨p, hp⟩
    exact ⟨p.filter [], (take_whole_gives_nil_iff hs).2 ⟨p, hp, rfl⟩⟩
  · intro p hp
    refine ⟨(take_whole_gives_nil_iff hs).2 ⟨p, hp, rfl⟩, ?_⟩
    intro q hq
    exact Phrase.text_injective (hq.trans hp.symm)
  · intro before after hb ha resolver
    exact parse_append_whiteSpace hb ha resolver text

/-- `a=1 | (b!='x' & c<2)`, as the grammar derives it. -/
def sample : Phrase .whole :=
  .more (.one (.clause (.mk ['a'] .empty .eq .empty (.bare ['1'])))) .space .space
    (.one (.one (.group .empty
      (.one (.more (.clause (.mk ['b'] .empty .neq .empty (.quoted ['x']))) .space .space
        (.one (.clause (.mk ['c'] .empty .lt .empty (.bare ['2'])))))) .empty)))

theorem take_whole_sample :
    sample.text = trim "\t a=1 | (b!='x' & c<2)".toList ∧
      (take .whole (trim "\t a=1 | (b!='x' & c<2)".toList)).Gives (sample.filter []) [] ∧
      AllWhiteSpace ['\u3000'] ∧
      ∀ resolver, parse resolver
          (String.ofList (['\u3000'] ++ "\t a=1 | (b!='x' & c<2)".toList ++ ['\u3000'])) =
        parse resolver "\t a=1 | (b!='x' & c<2)" := by
  have htext : sample.text = trim "\t a=1 | (b!='x' & c<2)".toList := by decide
  have hspace : AllWhiteSpace ['\u3000'] := by simp [AllWhiteSpace]; decide
  have h := take_whole_iff_derived "\t a=1 | (b!='x' & c<2)"
  exact ⟨htext, (h.2.1 sample htext).1, hspace, h.2.2 _ _ hspace hspace⟩

end SearchFilter.Filter
