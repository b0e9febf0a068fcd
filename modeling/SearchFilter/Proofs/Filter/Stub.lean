import SearchFilter.Proofs.Filter.Failing

/-!
# Derivations that break off

A `Stub` is a derivation that breaks off before one of its items: before a part of a comparison, or
before the parenthesis that closes a group. Its text begins a text of the grammar
(`Stub.exists_phrase`). The reader fails exactly where a stub ends and what follows is not the item
that it lacks, and says which one (`take_eq_error_iff`).
-/

namespace SearchFilter.Filter

open Text

variable {s rest : List Char} {fault : Fault} {join : Conjunction} {level : Level}

/-! ## Comparisons -/

/-- The items of a comparison. -/
inductive Wording.Part where
  | name
  | operator
  | literal
deriving DecidableEq

namespace Wording

/-- A comparison up to one of its items. -/
def upTo (w : Wording) : Part → List Char
  | .name => []
  | .operator => w.name ++ w.beforeOp
  | .literal => w.name ++ (w.beforeOp ++ (w.op.spelling ++ w.afterOp))

theorem upTo_literal (w : Wording) : w.text = w.upTo .literal ++ w.literal.text := by
  simp [text, upTo]

theorem upTo_isPrefix (w : Wording) (part : Part) : w.upTo part <+: w.text := by
  cases part with
  | name => exact List.nil_prefix
  | operator => exact ⟨w.op.spelling ++ (w.afterOp ++ w.literal.text), by simp [text, upTo]⟩
  | literal => exact ⟨w.literal.text, w.upTo_literal.symm⟩

/-- Past its name, a comparison begins with the name. -/
theorem upTo_eq_cons (w : Wording) {part : Part} (h : part ≠ .name) :
    ∃ c t, w.upTo part = c :: t ∧ isNameChar c = true := by
  obtain ⟨c, t, hw⟩ := List.exists_cons_of_ne_nil w.name_ne_nil
  have hc := w.isNameChar_of_mem c (by simp [hw])
  cases part with
  | name => exact absurd rfl h
  | operator => exact ⟨c, _, by rw [upTo, hw, List.cons_append], hc⟩
  | literal => exact ⟨c, _, by rw [upTo, hw, List.cons_append], hc⟩

theorem skipBlanks_upTo (w : Wording) {part : Part} (h : part ≠ .name) (rest : List Char) :
    skipBlanks (w.upTo part ++ rest) = w.upTo part ++ rest := by
  obtain ⟨c, t, hw, hc⟩ := w.upTo_eq_cons h
  rw [hw, List.cons_append]
  exact skipBlanks_of_startsOutside
    (startsOutside_cons.2 (isBlank_of_isWordChar (isWordChar_of_isNameChar hc)))

/-- The rest does not go on with this item of the comparison, nor with more of the item before. -/
def Lacks (w : Wording) (rest : List Char) : Part → Prop
  | .name => StartsOutside isNameChar rest
  | .operator => StartsOutside isNameChar (w.beforeOp ++ rest) ∧
      ∀ (op : Comparator) t, rest ≠ op.spelling ++ t
  | .literal => (w.op = .lt ∨ w.op = .gt → ∀ t, w.afterOp ++ rest ≠ '=' :: t) ∧
      ∀ (l : Literal) t, l.WellFormed → rest ≠ l.text ++ t

instance : Inhabited Wording := ⟨.compact "a" .eq (.bare ['1'])⟩

end Wording

/-- Reading a comparison fails where one breaks off. -/
theorem takeClause_eq_error_iff :
    takeClause s = .error fault ↔
      ∃ (before : Blanks) (w : Wording) (part : Wording.Part) (rest : List Char),
        s = before ++ (w.upTo part ++ rest) ∧ w.Lacks rest part ∧ StartsOutside isBlank rest ∧
        fault = .expected .comparison rest := by
  rw [takeClause_eq_error_iff_items]
  obtain ⟨before, hbefore⟩ := exists_blanks s
  constructor
  · rintro (he | ⟨name, afterName, hname, he | ⟨op, afterOp, hop, he⟩⟩)
    · obtain ⟨hs, rfl⟩ := takeRun_eq_error_iff.1 he
      exact ⟨before, default, .name, _, hbefore, hs, startsOutside_skipBlanks s, rfl⟩
    · obtain ⟨hs, hne, hchars, hend⟩ := takeRun_gives_iff.1 hname
      obtain ⟨hop, rfl⟩ := takeOperator_eq_error_iff.1 he
      obtain ⟨beforeOp, hbeforeOp⟩ := exists_blanks afterName
      refine ⟨before, ⟨name, beforeOp, .eq, .empty, .bare ['1'], hne, hchars, by decide⟩,
        .operator, _, ?_, ⟨?_, hop⟩, startsOutside_skipBlanks afterName, rfl⟩
      · rw [hbefore, hs, hbeforeOp]
        simp [Wording.upTo]
      · rwa [← hbeforeOp]
    · obtain ⟨hs, hne, hchars, -⟩ := takeRun_gives_iff.1 hname
      obtain ⟨hs', hend⟩ := takeOperator_gives_iff.1 hop
      obtain ⟨hliteral, rfl⟩ := takeLiteral_eq_error_iff.1 he
      obtain ⟨beforeOp, hbeforeOp⟩ := exists_blanks afterName
      obtain ⟨afterOp', hafterOp⟩ := exists_blanks afterOp
      refine ⟨before, ⟨name, beforeOp, op, afterOp', .bare ['1'], hne, hchars, by decide⟩,
        .literal, _, ?_, ⟨?_, hliteral⟩, startsOutside_skipBlanks afterOp, rfl⟩
      · rw [hbefore, hs, hbeforeOp, hs', hafterOp]
        simp [Wording.upTo]
      · rwa [← hafterOp]
  · rintro ⟨before, w, part, rest, rfl, hlacks, hblank, rfl⟩
    cases part with
    | name =>
      refine .inl (takeRun_eq_error_iff.2 ?_)
      rw [skipBlanks_append, Wording.upTo, List.nil_append, skipBlanks_of_startsOutside hblank]
      exact ⟨hlacks, rfl⟩
    | operator =>
      obtain ⟨hend, hop⟩ := hlacks
      refine .inr ⟨w.name, w.beforeOp ++ rest, ?_, .inl ?_⟩
      · rw [takeRun_gives_iff, skipBlanks_append, w.skipBlanks_upTo (by simp)]
        exact ⟨by simp [Wording.upTo], w.name_ne_nil, w.isNameChar_of_mem, hend⟩
      · rw [takeOperator_eq_error_iff, skipBlanks_append_of_startsOutside _ hblank]
        exact ⟨hop, rfl⟩
    | literal =>
      obtain ⟨hend, hliteral⟩ := hlacks
      refine .inr ⟨w.name, w.beforeOp ++ (w.op.spelling ++ (w.afterOp ++ rest)), ?_,
        .inr ⟨w.op, w.afterOp ++ rest, ?_, ?_⟩⟩
      · rw [takeRun_gives_iff, skipBlanks_append, w.skipBlanks_upTo (by simp)]
        exact ⟨by simp [Wording.upTo], w.name_ne_nil, w.isNameChar_of_mem,
          w.startsOutside_afterName _⟩
      · rw [takeOperator_gives_iff, skipBlanks_append,
          skipBlanks_of_startsOutside (w.startsOutside_op _)]
        exact ⟨rfl, hend⟩
      · rw [takeLiteral_eq_error_iff, skipBlanks_append_of_startsOutside _ hblank]
        exact ⟨hliteral, rfl⟩

/-! ## Levels -/

/-- A derivation of a level that breaks off. -/
inductive Stub : Level → Type where
  /-- A comparison that breaks off before one of its items. -/
  | clause (w : Wording) (part : Wording.Part) : Stub .item
  /-- A group that breaks off within its parentheses. -/
  | inside (before : Blanks) (k : Stub .whole) : Stub .item
  /-- A group that breaks off before its closing parenthesis. -/
  | closing (before : Blanks) (body : Phrase .whole) (after : Blanks) : Stub .item
  /-- A chain that breaks off within its first operand. -/
  | first {join : Conjunction} (k : Stub (.operand join)) : Stub (.chain join)
  /-- A chain that breaks off after its first operand. -/
  | further {join : Conjunction} (p : Phrase (.operand join)) (before after : Blanks)
      (k : Stub (.chain join)) : Stub (.chain join)

namespace Stub

/-- The text up to where the derivation breaks off. -/
def text : {level : Level} → Stub level → List Char
  | _, .clause w part => w.upTo part
  | _, .inside before k => '(' :: (before ++ k.text)
  | _, .closing before body after => '(' :: (before ++ (body.text ++ after))
  | _, .first k => k.text
  | .chain join, .further p before after k => p.text ++ (before ++ mark join :: (after ++ k.text))

/-- What would come next. A missing item of a comparison is told as the comparison. -/
def wants : {level : Level} → Stub level → Expectation
  | _, .clause _ _ => .comparison
  | _, .inside _ k => k.wants
  | _, .closing _ _ _ => .closingParen
  | _, .first k => k.wants
  | _, .further _ _ _ k => k.wants

/-- The rest does not go on with what would come next, nor with more of what came before. -/
def Lacks : {level : Level} → Stub level → List Char → Prop
  | _, .clause w part, rest => w.Lacks rest part ∧ (part = .name → rest.head? ≠ some '(')
  | _, .inside _ k, rest => k.Lacks rest
  | _, .closing _ body after, rest => body.Ends (after ++ rest) ∧ rest.head? ≠ some ')'
  | _, .first k, rest => k.Lacks rest
  | _, .further _ _ _ k, rest => k.Lacks rest

/-- Every derivation that breaks off can be completed. -/
theorem exists_phrase (k : Stub level) : ∃ p : Phrase level, k.text <+: p.text := by
  induction k with
  | clause w part => exact ⟨.clause w, w.upTo_isPrefix part⟩
  | inside before k ih =>
    obtain ⟨p, t, hp⟩ := ih
    exact ⟨.group before p .empty, t ++ [')'], by simp [text, Phrase.text, ← hp]⟩
  | closing before body after =>
    exact ⟨.group before body after, [')'], by simp [text, Phrase.text]⟩
  | first k ih =>
    obtain ⟨p, hp⟩ := ih
    exact ⟨.one p, hp⟩
  | further p before after k ih =>
    obtain ⟨ps, t, hps⟩ := ih
    exact ⟨.more p before after ps, t, by simp [text, Phrase.text, ← hps]⟩

theorem startsOutside_text (k : Stub level) (hrest : StartsOutside isBlank rest) :
    StartsOutside isBlank (k.text ++ rest) := by
  induction k with
  | clause w part =>
    by_cases hpart : part = .name
    · rw [hpart]
      exact hrest
    · rw [text, ← w.skipBlanks_upTo hpart]
      exact startsOutside_skipBlanks _
  | inside before k ih => exact startsOutside_cons.2 rfl
  | closing before body after => exact startsOutside_cons.2 rfl
  | first k ih => exact ih
  | further p before after k ih =>
    rw [text, List.append_assoc]
    exact p.startsOutside_text _

theorem skipBlanks_text (k : Stub level) (hrest : StartsOutside isBlank rest) :
    skipBlanks (k.text ++ rest) = k.text ++ rest :=
  skipBlanks_of_startsOutside (k.startsOutside_text hrest)

/-- At the end of a text, everything is lacking. -/
theorem lacks_nil (k : Stub level) : k.Lacks [] := by
  induction k with
  | clause w part =>
    refine ⟨?_, by simp⟩
    cases part with
    | name => exact startsOutside_nil _
    | operator =>
      refine ⟨?_, fun op t => by cases op <;> simp [Comparator.spelling]⟩
      rw [List.append_nil]
      exact (Follows.blanks .item w.beforeOp).word.mono fun _ => isWordChar_of_isNameChar
    | literal =>
      refine ⟨?_, ?_⟩
      · intro _ t ht
        have hequal := w.afterOp.2 '=' (by rw [List.append_nil] at ht; simp [ht])
        exact absurd hequal (by decide)
      · intro l t hl
        cases l with
        | quoted u => simp [Literal.text]
        | bare v => simp [Literal.text, hl.1]
  | inside before k ih => exact ih
  | closing before body after =>
    refine ⟨?_, by simp⟩
    rw [List.append_nil]
    exact (Follows.blanks .whole after).ends body
  | first k ih => exact ih
  | further p before after k ih => exact ih

end Stub

/-! ## Where the reader fails -/

/-- The text begins with a stub that goes no further, and the fault says what it wants. -/
def Stops (level : Level) (s : List Char) (fault : Fault) : Prop :=
  ∃ (before : Blanks) (k : Stub level) (rest : List Char), s = before ++ (k.text ++ rest) ∧
    k.Lacks rest ∧ StartsOutside isBlank rest ∧ fault = .expected k.wants rest

/-- Reading a chain on fails where the rest of a chain breaks off. -/
theorem Breaks.exists_stub (h : Breaks join s fault) {n : Nat} (hn : s.length ≤ n)
    (hoperand : ∀ {t fault}, t.length < n → take (.operand join) t = .error fault →
      Stops (.operand join) t fault) :
    ∃ (before after : Blanks) (k : Stub (.chain join)) (rest : List Char),
      s = before ++ mark join :: (after ++ (k.text ++ rest)) ∧ k.Lacks rest ∧
      StartsOutside isBlank rest ∧ fault = .expected k.wants rest := by
  induction h with
  | @operand s t fault hmark h =>
    obtain ⟨before, after, hs, ht⟩ := exists_blanks_mark hmark
    obtain ⟨lead, k, rest, hk, hlacks, hblank, rfl⟩ := hoperand (by omega) h
    refine ⟨before, after.append lead, .first k, rest, ?_, hlacks, hblank, rfl⟩
    rw [hs, hk]
    simp [Stub.text]
  | @step s t r g fault hmark hg hb ih =>
    obtain ⟨before, after, hs, ht⟩ := exists_blanks_mark hmark
    obtain ⟨lead, final, p, hp, -, -, -⟩ := derives_of_gives hg
    obtain ⟨hr, -⟩ := hg
    obtain ⟨before', after', k, rest, rfl, hlacks, hblank, rfl⟩ := ih (by omega)
    refine ⟨before, after.append lead, .further p (final.append before') after' k, rest, ?_,
      hlacks, hblank, rfl⟩
    rw [hs, hp]
    simp [Stub.text]

/-- Wherever a level of the reader fails, a derivation breaks off. -/
theorem stops_of_error {level : Level} {s : List Char} {fault : Fault}
    (h : take level s = .error fault) : Stops level s fault := by
  match level with
  | .item =>
    rcases take_item_eq_error_iff.1 h with
      ⟨t, hopen, he | ⟨f, r, hbody, hclose, rfl⟩⟩ | ⟨hmark, he⟩
    · obtain ⟨before, after, hs, hlt⟩ := exists_blanks_mark hopen
      obtain ⟨lead, k, rest, hk, hlacks, hblank, rfl⟩ := stops_of_error he
      refine ⟨before, .inside (after.append lead) k, rest, ?_, hlacks, hblank, rfl⟩
      rw [hs, hk]
      simp [Stub.text]
    · obtain ⟨before, after, hs, -⟩ := exists_blanks_mark hopen
      obtain ⟨lead, final, p, hp, -, hends, hr⟩ := derives_of_gives hbody
      rw [skipBlanks_of_startsOutside hr] at hclose ⊢
      refine ⟨before, .closing (after.append lead) p final, r, ?_, ⟨hends, hclose⟩, hr, rfl⟩
      rw [hs, hp]
      simp [Stub.text]
    · obtain ⟨before, w, part, rest, rfl, hlacks, hblank, rfl⟩ := takeClause_eq_error_iff.1 he
      refine ⟨before, .clause w part, rest, rfl, ⟨hlacks, ?_⟩, hblank, rfl⟩
      rintro rfl
      rwa [skipBlanks_append, Wording.upTo, List.nil_append,
        skipBlanks_of_startsOutside hblank] at hmark
  | .chain join =>
    rcases take_chain_eq_error_iff.1 h with he | ⟨g, r, hg, hb⟩
    · obtain ⟨before, k, rest, hs, hlacks, hblank, rfl⟩ := stops_of_error he
      exact ⟨before, .first k, rest, hs, hlacks, hblank, rfl⟩
    · obtain ⟨before, after, p, hs, -, -, -⟩ := derives_of_gives hg
      obtain ⟨hlt, -⟩ := hg
      obtain ⟨before', after', k, rest, rfl, hlacks, hblank, rfl⟩ :=
        hb.exists_stub (Nat.le_of_lt hlt) fun ht he => stops_of_error he
      refine ⟨before, .further p (after.append before') after' k, rest, ?_, hlacks, hblank, rfl⟩
      rw [hs]
      simp [Stub.text]
termination_by (s.length, level.rank)
decreasing_by
  · exact Prod.Lex.left _ _ hlt
  · exact Prod.Lex.right _ (Level.rank_operand_lt join)
  · exact Prod.Lex.left _ _ ht

/-- Wherever a derivation breaks off, the reader fails. -/
theorem Stub.take_eq_error {level : Level} (k : Stub level) (hlacks : k.Lacks rest)
    (hblank : StartsOutside isBlank rest) (before : Blanks) :
    take level (before ++ (k.text ++ rest)) = .error (.expected k.wants rest) := by
  induction k generalizing before with
  | clause w part =>
    obtain ⟨hlacks, hparen⟩ := hlacks
    refine take_item_eq_error_iff.2 (.inr ⟨?_, ?_⟩)
    · by_cases hpart : part = .name
      · rw [hpart, text, Wording.upTo, skipBlanks_append, List.nil_append,
          skipBlanks_of_startsOutside hblank]
        exact hparen hpart
      · obtain ⟨c, t, hw, hc⟩ := w.upTo_eq_cons hpart
        rw [text, skipBlanks_append, w.skipBlanks_upTo hpart, hw, List.cons_append,
          List.head?_cons]
        rintro ⟨rfl⟩
        exact absurd hc (by decide)
    · exact takeClause_eq_error_iff.2 ⟨before, w, part, rest, rfl, hlacks, hblank, rfl⟩
  | inside lead k ih =>
    refine take_item_eq_error_iff.2 (.inl ⟨lead ++ (k.text ++ rest), ?_, .inl ?_⟩)
    · rw [skipBlanks_append, (inside lead k).skipBlanks_text hblank]
      simp [text]
    · rw [skipBlanks_append, k.skipBlanks_text hblank]
      exact ih hlacks .empty
  | closing lead body after =>
    obtain ⟨hends, hclose⟩ := hlacks
    refine take_item_eq_error_iff.2 (.inl ⟨lead ++ (body.text ++ (after ++ rest)), ?_,
      .inr ⟨body.filter (after ++ rest), rest, ?_, ?_, ?_⟩⟩)
    · rw [skipBlanks_append, (closing lead body after).skipBlanks_text hblank]
      simp [text]
    · rw [skipBlanks_append, Phrase.skipBlanks_text]
      exact take_gives_iff.2 ⟨.empty, after, body, by simp, rfl, hends, hblank⟩
    · rwa [skipBlanks_of_startsOutside hblank]
    · rw [skipBlanks_of_startsOutside hblank]
      rfl
  | first k ih => exact take_chain_eq_error_iff.2 (.inl (ih hlacks before))
  | @further join p lead after k ih =>
    have hchain := ih hlacks .empty
    rw [Blanks.coe_empty, List.nil_append] at hchain
    have hgives := (found p _ ((Follows.mark join lead (after ++ (k.text ++ rest))).ends p)).gives
      before
    rw [skipBlanks_append, skipBlanks_mark] at hgives
    have hskip : skipBlanks (after ++ (k.text ++ rest)) = k.text ++ rest := by
      rw [skipBlanks_append, k.skipBlanks_text hblank]
    have htext : (further p lead after k).text ++ rest =
        p.text ++ (lead ++ mark join :: (after ++ (k.text ++ rest))) := by simp [text]
    rw [htext]
    refine take_chain_eq_error_iff.2 (.inr ⟨_, _, hgives, ?_⟩)
    rcases take_chain_eq_error_iff.1 hchain with he | ⟨g, r, hg, hb⟩
    · exact .operand (skipBlanks_mark join _) (by rwa [hskip])
    · exact .step (skipBlanks_mark join _) (by rwa [hskip]) hb

/-- A level of the reader fails exactly where a derivation breaks off. -/
theorem take_eq_error_iff : take level s = .error fault ↔ Stops level s fault := by
  refine ⟨stops_of_error, ?_⟩
  rintro ⟨before, k, rest, rfl, hlacks, hblank, rfl⟩
  exact k.take_eq_error hlacks hblank before

end SearchFilter.Filter
