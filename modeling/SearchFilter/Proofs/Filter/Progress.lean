import SearchFilter.Proofs.Filter.Comparisons
import SearchFilter.Proofs.Filter.Diagnosis

/-!
# Progress

Whatever a reader leaves, remembers of a literal or blames is the rest of its text from some place
on, and if it takes something it leaves less (`Progresses`). That is why the readers come to an end.
`descend` is the descent into the grammar that relies on none of this: it is cut off at some depth,
and a repetition that takes something and leaves no less is an answer of its own. Three levels for
each character are deep enough, and then neither happens (`descend_eq_take`).
-/

namespace SearchFilter.Filter

open Text

variable {α β : Type} {level : Level} {join : Conjunction} {s t rest : List Char} {f : Filter}
  {fault : Fault}

/-! ## What is left of a text -/

theorem byteLength_le_of_suffix (h : t <:+ s) : byteLength t ≤ byteLength s := by
  obtain ⟨u, rfl⟩ := h
  rw [byteLength_append]
  exact Nat.le_add_left _ _

/-- `t` is left of `s` at some place, and the position of the place is the bytes before it. -/
structure LeftOf (t s : List Char) : Prop where
  suffix : t <:+ s
  position_add : position s t + byteLength t = byteLength s

theorem LeftOf.of_suffix (h : t <:+ s) : LeftOf t s :=
  ⟨h, Nat.sub_add_cancel (byteLength_le_of_suffix h)⟩

/-- The reader leaves a shorter rest of its text. The tails that it keeps are rests of the text, too,
and what is left is a rest of each; so is what it blames. -/
structure Progresses (tails : α → List (List Char)) {s : List Char} (a : Answer α s) : Prop where
  shorter : ∀ v rest, a.Gives v rest → LeftOf rest s ∧ rest.length < s.length
  tails : ∀ v rest, a.Gives v rest → ∀ t ∈ tails v, LeftOf t s ∧ rest <:+ t
  failed : ∀ fault, a = .error fault → ∃ what rest, fault = .expected what rest ∧ LeftOf rest s

/-! ## Steps -/

theorem progresses_takeClause (s : List Char) :
    Progresses (fun c => [c.tail]) (takeClause s) := by
  refine ⟨?_, ?_, ?_⟩
  · intro c rest h
    obtain ⟨before, after, w, hs, -, -, -⟩ := takeClause_gives_iff.1 h
    refine ⟨.of_suffix ⟨before ++ (w.text ++ after), ?_⟩, h.1⟩
    rw [hs]
    simp
  · intro c rest h t ht
    obtain ⟨before, after, w, hs, rfl, -, -⟩ := takeClause_gives_iff.1 h
    rw [List.mem_singleton.1 ht]
    refine ⟨.of_suffix ⟨before ++ w.upTo .literal, ?_⟩, ⟨w.literal.text ++ after, ?_⟩⟩
    · rw [hs, w.upTo_literal]
      simp [Wording.clause]
    · simp [Wording.clause]
  · intro fault h
    obtain ⟨before, w, part, rest, hs, -, -, rfl⟩ := takeClause_eq_error_iff.1 h
    refine ⟨_, rest, rfl, .of_suffix ⟨before ++ w.upTo part, ?_⟩⟩
    rw [hs]
    simp

/-- The literals of a derivation begin in its text. -/
theorem Phrase.suffix_tail (p : Phrase level) (rest : List Char) :
    ∀ c ∈ (p.filter rest).clauses, c.tail <:+ p.text ++ rest ∧ rest <:+ c.tail := by
  induction p generalizing rest with
  | clause w =>
    rw [filter, clauses]
    refine List.forall_mem_singleton.2 ⟨⟨w.upTo .literal, ?_⟩, List.suffix_append _ _⟩
    rw [text, w.upTo_literal, List.append_assoc]
    rfl
  | group before body after ih =>
    intro c hc
    obtain ⟨hbody, hrest⟩ := ih (after ++ ')' :: rest) c hc
    refine ⟨hbody.trans ⟨'(' :: before, ?_⟩, List.IsSuffix.trans ⟨after ++ [')'], ?_⟩ hrest⟩
    · simp [text]
    · simp
  | one p ih => exact ih rest
  | @more join p before after ps ihp ihps =>
    have htext : (more p before after ps).text ++ rest =
        p.text ++ (before ++ mark join :: (after ++ (ps.text ++ rest))) := by simp [text]
    intro c hc
    rw [clauses_filter, filters, clausesOf, ← clauses_filter, List.mem_append] at hc
    rw [htext]
    rcases hc with hc | hc
    · obtain ⟨hp, hrest⟩ := ihp _ c hc
      refine ⟨hp, List.IsSuffix.trans ⟨before ++ mark join :: (after ++ ps.text), ?_⟩ hrest⟩
      simp
    · obtain ⟨hps, hrest⟩ := ihps rest c hc
      refine ⟨hps.trans ⟨p.text ++ (before ++ mark join :: after), ?_⟩, hrest⟩
      simp

theorem progresses_take (level : Level) (s : List Char) :
    Progresses (fun f => f.clauses.map Clause.tail) (take level s) := by
  refine ⟨?_, ?_, ?_⟩
  · intro f rest h
    obtain ⟨before, after, p, hs, -, -, -⟩ := derives_of_gives h
    refine ⟨.of_suffix ⟨before ++ (p.text ++ after), ?_⟩, h.1⟩
    rw [hs]
    simp
  · intro f rest h t ht
    obtain ⟨before, after, p, hs, rfl, -, -⟩ := derives_of_gives h
    obtain ⟨c, hc, rfl⟩ := List.mem_map.1 ht
    obtain ⟨htail, hrest⟩ := p.suffix_tail _ c hc
    refine ⟨.of_suffix (htail.trans ⟨before, hs.symm⟩), (List.suffix_append _ _).trans hrest⟩
  · intro fault h
    obtain ⟨before, k, rest, hs, -, -, rfl⟩ := stops_of_error h
    refine ⟨_, rest, rfl, .of_suffix ⟨before ++ k.text, ?_⟩⟩
    rw [hs]
    simp

/-! ## The descent without progress -/

/-- How a reader ends that is not known to make progress. -/
inductive Outcome (α : Type) where
  | taken (value : α) (rest : List Char)
  | failed (fault : Fault)
  /-- A repetition took something and left no less. -/
  | stuck (rest : List Char)
  /-- The descent was cut off. -/
  | cutOff

namespace Outcome

def map (g : α → β) : Outcome α → Outcome β
  | taken v rest => taken (g v) rest
  | failed fault => failed fault
  | stuck rest => stuck rest
  | cutOff => cutOff

def ofAnswer {s : List Char} : Answer α s → Outcome α
  | .ok t => taken t.value t.rest
  | .error fault => failed fault

@[simp] theorem ofAnswer_ok (t : Taken α s) :
    ofAnswer (.ok t : Answer α s) = taken t.value t.rest := rfl

theorem map_map {γ : Type} (h : β → γ) (g : α → β) (o : Outcome α) :
    (o.map g).map h = o.map fun a => h (g a) := by
  cases o <;> rfl

end Outcome

/-- What a reader takes of the text time after time, as long as there is more to read. -/
def repeatedly (next : List Char → Option (Outcome α)) (s : List Char) : Outcome (List α) :=
  match next s with
  | none => .taken [] s
  | some (.taken v rest) =>
    if rest.length < s.length then (repeatedly next rest).map (v :: ·) else .stuck s
  | some (.failed fault) => .failed fault
  | some (.stuck rest) => .stuck rest
  | some .cutOff => .cutOff
termination_by s.length

/-- A further operand of a chain, if its conjunction comes next. -/
def further (join : Conjunction) (operand : List Char → Outcome Filter) (s : List Char) :
    Option (Outcome Filter) :=
  (takeMark? (mark join) s).map fun t => operand t.val

/-- The descent into the grammar, so many levels at most. -/
def descend : Nat → Level → List Char → Outcome Filter
  | 0, _, _ => .cutOff
  | depth + 1, .item, s =>
    match takeMark? '(' s with
    | some t =>
      match descend depth .whole t with
      | .taken f rest =>
        match takeMark? ')' rest with
        | some u => .taken f u
        | none => .failed (.expected .closingParen (skipBlanks rest))
      | other => other
    | none => (Outcome.ofAnswer (takeClause s)).map .clause
  | depth + 1, .chain join, s =>
    match descend depth (.operand join) s with
    | .taken first rest =>
      (repeatedly (further join (descend depth (.operand join))) rest).map
        fun others => chain join (first :: others)
    | other => other

/-- A repetition of operands goes on as the rest of a chain is read, if the operands are read alike. -/
theorem repeatedly_further_eq {operand : List Char → Outcome Filter} {r : List Char}
    (h : r.length < s.length) (done : List Filter)
    (hoperand : ∀ t, t.length < s.length →
      operand t = .ofAnswer (take (.operand join) t)) :
    (repeatedly (further join operand) r).map (fun fs => chain join (done.reverse ++ fs)) =
      .ofAnswer (takeMore join s done r h) := by
  rw [repeatedly, takeMore, further]
  cases hmark : takeMark? (mark join) r with
  | none =>
    simp only [Option.map_none, Outcome.map, List.append_nil]
    rfl
  | some u =>
    obtain ⟨u, hu⟩ := u
    simp only [Option.map_some, hoperand u (by omega)]
    cases htake : take (.operand join) u with
    | error fault => rfl
    | ok taken =>
      obtain ⟨g, r', hr'⟩ := taken
      simp only [Outcome.ofAnswer_ok]
      rw [if_pos (by omega), Outcome.map_map]
      have hmore := repeatedly_further_eq (r := r') (by omega) (g :: done) hoperand
      simpa using hmore
termination_by r.length
decreasing_by omega

/-- The descent comes to an end on every text: three levels for each character are enough, and
no repetition is stuck. -/
theorem descend_eq_take {depth : Nat} (h : 3 * s.length + level.rank < depth) :
    descend depth level s = .ofAnswer (take level s) := by
  induction depth generalizing level s with
  | zero => cases h
  | succ depth ih =>
    match level with
    | .item =>
      rw [descend, take]
      cases hmark : takeMark? '(' s with
      | none =>
        cases hclause : takeClause s with
        | error fault => rfl
        | ok taken => rfl
      | some t =>
        obtain ⟨t, ht⟩ := t
        have hrank : Level.whole.rank = 2 := rfl
        have hbody : descend depth .whole t = .ofAnswer (take .whole t) := ih (by omega)
        simp only [hbody]
        cases take .whole t with
        | error fault => rfl
        | ok taken =>
          obtain ⟨f, r, hr⟩ := taken
          simp only [Outcome.ofAnswer_ok]
          cases takeMark? ')' r <;> rfl
    | .chain join =>
      have hrank := Level.rank_operand_lt join
      have hoperand (t : List Char) (ht : t.length ≤ s.length) :
          descend depth (.operand join) t = .ofAnswer (take (.operand join) t) := ih (by omega)
      rw [descend, take, hoperand s (Nat.le_refl _)]
      cases take (.operand join) s with
      | error fault => rfl
      | ok taken =>
        obtain ⟨g, r, hr⟩ := taken
        simp only [Outcome.ofAnswer_ok]
        exact repeatedly_further_eq hr [g] fun t ht => hoperand t (Nat.le_of_lt ht)

/-- Every reader of the grammar makes progress and keeps to rests of its text. The descent into the
grammar, of at most three levels for each character, is neither cut off nor stuck. -/
theorem take_progresses (s : List Char) :
    Progresses (fun c => [c.tail]) (takeClause s) ∧
      ∀ level, Progresses (fun f => f.clauses.map Clause.tail) (take level s) ∧
        ∀ depth, 3 * s.length + level.rank < depth →
          descend depth level s = .ofAnswer (take level s) ∧
          descend depth level s ≠ .cutOff ∧ ∀ rest, descend depth level s ≠ .stuck rest := by
  refine ⟨progresses_takeClause s, fun level => ⟨progresses_take level s, fun depth h => ?_⟩⟩
  have hdescend := descend_eq_take h
  refine ⟨hdescend, ?_⟩
  rw [hdescend]
  cases take level s with
  | error fault => exact ⟨nofun, nofun⟩
  | ok taken => exact ⟨nofun, nofun⟩

/-- `a=1 | (b!='x' & c<2) )` -/
def overclosed : List Char := sample.text ++ [' ', ')']

theorem take_progresses_overclosed :
    descend 69 .whole overclosed = .taken (sample.filter [' ', ')']) [')'] ∧
      position overclosed [')'] + 1 = byteLength overclosed ∧
      ∀ c ∈ (sample.filter [' ', ')']).clauses, LeftOf c.tail overclosed ∧ [')'] <:+ c.tail := by
  have hclose : StartsOutside isBlank [')'] := startsOutside_cons.2 (by decide)
  have hgives : (take .whole overclosed).Gives (sample.filter [' ', ')']) [')'] :=
    take_gives_iff.2 ⟨.empty, .space, sample, rfl, rfl,
      (Follows.closingParen .whole .space []).ends sample, hclose⟩
  have hwhole := (take_progresses overclosed).2 .whole
  refine ⟨?_, (hwhole.1.shorter _ _ hgives).1.position_add, fun c hc => ?_⟩
  · obtain ⟨_, htake⟩ := hgives
    rw [(hwhole.2 69 (by decide)).1, htake]
    rfl
  · exact hwhole.1.tails _ _ hgives c.tail (List.mem_map_of_mem hc)

end SearchFilter.Filter
