import SearchFilter.Proofs.Filter.FirstFailure

/-!
# Flat chains

A filter is only as deep as the parentheses of its text. These are counted on the text, quotes
apart, by a scan (`nesting`), and on a derivation by its groups; both counts are the same, because
nothing else of a derived text moves the scan (`Phrase.scan_text`). A pair of parentheses makes the
filter at most two chains deeper, one of each conjunction (`Phrase.depth_le`). A chain of one operand
is no node, so every node has two (`Phrase.two_le_length_of_within`), and a text has no expression
only if there is nothing in it (`parse_eq_missingExpression_iff`). `take_whole_flat` says all of this
of the reader.
-/

namespace SearchFilter.Filter

open Text

variable {level : Level} {join : Conjunction} {rest s : List Char} {f g : Filter} {fs : List Filter}

/-! ## The parentheses of a text -/

/-- How far a text has been scanned for parentheses. -/
structure Nesting where
  /-- Whether a quote is open. -/
  quoted : Bool
  /-- How many parentheses are open. -/
  level : Nat
  /-- How many were open at most. -/
  deepest : Nat
deriving DecidableEq, Repr

namespace Nesting

/-- The scan goes past a character. Between quotes there are no parentheses. -/
def step (n : Nesting) (c : Char) : Nesting :=
  if c = '\'' then { n with quoted := !n.quoted }
  else if n.quoted then n
  else if c = '(' then { n with level := n.level + 1, deepest := max n.deepest (n.level + 1) }
  else if c = ')' then { n with level := n.level - 1 }
  else n

/-- The scan goes past a text. -/
def scan (n : Nesting) (s : List Char) : Nesting := s.foldl step n

@[simp] theorem scan_nil (n : Nesting) : n.scan [] = n := rfl

@[simp] theorem scan_cons (n : Nesting) (c : Char) (s : List Char) :
    n.scan (c :: s) = (n.step c).scan s := rfl

@[simp] theorem scan_append (n : Nesting) (s t : List Char) :
    n.scan (s ++ t) = (n.scan s).scan t := List.foldl_append

theorem deepest_le_step (n : Nesting) (c : Char) : n.deepest ≤ (n.step c).deepest := by
  unfold step
  split
  · exact Nat.le_refl _
  split
  · exact Nat.le_refl _
  split
  · exact Nat.le_max_left _ _
  split
  all_goals exact Nat.le_refl _

theorem deepest_le_scan (n : Nesting) (s : List Char) : n.deepest ≤ (n.scan s).deepest := by
  induction s generalizing n with
  | nil => exact Nat.le_refl _
  | cons c s ih => exact Nat.le_trans (n.deepest_le_step c) (ih _)

/-- Only quotes and parentheses move the scan. -/
theorem scan_eq_self (n : Nesting) (h : ∀ c ∈ s, c ∉ ['\'', '(', ')']) : n.scan s = n := by
  induction s with
  | nil => rfl
  | cons c s ih =>
    obtain ⟨hc, hs⟩ := List.forall_mem_cons.1 h
    simp only [List.mem_cons, List.not_mem_nil, or_false, not_or] at hc
    rw [scan_cons, step, if_neg hc.1, if_neg hc.2.1, if_neg hc.2.2, ite_self, ih hs]

/-- So a run of a class of characters without them leaves the scan where it is. -/
theorem scan_run {p : Char → Bool} (n : Nesting) (hp : ∀ c ∈ ['\'', '(', ')'], p c = false)
    (hs : ∀ c ∈ s, p c = true) : n.scan s = n := by
  refine n.scan_eq_self fun c hc hmark => ?_
  have hc := hs c hc
  rw [hp c hmark] at hc
  cases hc

/-- Between quotes, only quotes do. -/
theorem scan_quoted {l d : Nat} (h : '\'' ∉ s) : (⟨true, l, d⟩ : Nesting).scan s = ⟨true, l, d⟩ := by
  induction s with
  | nil => rfl
  | cons c s ih =>
    rw [List.mem_cons, not_or] at h
    rw [scan_cons, step, if_neg (Ne.symm h.1), if_pos rfl, ih h.2]

end Nesting

/-- The nesting depth of the parentheses of a text, quotes apart. -/
def nesting (s : List Char) : Nat := ((⟨false, 0, 0⟩ : Nesting).scan s).deepest

theorem nesting_le_append (s t : List Char) : nesting s ≤ nesting (s ++ t) := by
  rw [nesting, nesting, Nesting.scan_append]
  exact Nesting.deepest_le_scan _ _

/-! ## The parentheses of a derivation -/

theorem Blanks.scan_eq_self (b : Blanks) (n : Nesting) : n.scan b = n :=
  n.scan_run (by decide) b.2

theorem Literal.scan_text {l : Literal} (h : l.WellFormed) (m d : Nat) :
    (⟨false, m, d⟩ : Nesting).scan l.text = ⟨false, m, d⟩ := by
  cases l with
  | quoted t =>
    rw [text, Nesting.scan_cons, Nesting.scan_append]
    change Nesting.scan (Nesting.scan ⟨true, m, d⟩ t) ['\''] = _
    rw [Nesting.scan_quoted h]
    rfl
  | bare w => exact Nesting.scan_run _ (by decide) h.2

theorem Wording.scan_text (w : Wording) (m d : Nat) :
    (⟨false, m, d⟩ : Nesting).scan w.text = ⟨false, m, d⟩ := by
  have hname (n : Nesting) : n.scan w.name = n := n.scan_run (by decide) w.isNameChar_of_mem
  have hspelling (n : Nesting) : n.scan w.op.spelling = n :=
    n.scan_eq_self (by cases w.op <;> decide)
  simp only [text, Nesting.scan_append, Blanks.scan_eq_self, hname, hspelling,
    Literal.scan_text w.wellFormed]

namespace Phrase

/-- How deep the groups of a derivation are nested. -/
def groups : {level : Level} → Phrase level → Nat
  | _, .clause _ => 0
  | _, .group _ body _ => body.groups + 1
  | _, .one p => p.groups
  | _, .more p _ _ ps => max p.groups ps.groups

/-- A scan leaves a derived text as it came there, but for the depth of its groups. -/
theorem scan_text (p : Phrase level) {m d : Nat} (h : m ≤ d) :
    (⟨false, m, d⟩ : Nesting).scan p.text = ⟨false, m, max d (m + p.groups)⟩ := by
  induction p generalizing m d with
  | clause w => rw [text, w.scan_text, groups, Nat.add_zero, Nat.max_eq_left h]
  | group before body after ih =>
    have hopen : (⟨false, m, d⟩ : Nesting).step '(' = ⟨false, m + 1, max d (m + 1)⟩ := rfl
    have hclose (e : Nat) : (⟨false, m + 1, e⟩ : Nesting).step ')' = ⟨false, m, e⟩ := rfl
    simp only [text, Nesting.scan_cons, Nesting.scan_append, Nesting.scan_nil, hopen,
      Blanks.scan_eq_self, ih (Nat.le_max_right d (m + 1)), hclose, groups]
    congr 1
    omega
  | one p ih =>
    rw [text, groups]
    exact ih h
  | @more join p before after ps ihp ihps =>
    have hmark (n : Nesting) : n.scan [mark join] = n :=
      n.scan_eq_self (by cases join <;> decide)
    have hstep (n : Nesting) : n.step (mark join) = n := hmark n
    simp only [text, Nesting.scan_append, Nesting.scan_cons, hstep, Blanks.scan_eq_self, ihp h,
      ihps (Nat.le_trans h (Nat.le_max_left d _)), groups]
    congr 1
    omega

theorem nesting_text (p : Phrase level) (before after : Blanks) :
    nesting (before ++ (p.text ++ after)) = p.groups := by
  simp only [nesting, Nesting.scan_append, Blanks.scan_eq_self, p.scan_text (Nat.le_refl 0)]
  omega

/-! ## Depth -/

theorem depth_filter_le_depthOf (p : Phrase (.chain join)) (rest : List Char) :
    (p.filter rest).depth ≤ depthOf (p.filters rest) + 1 := by
  cases p with
  | one p =>
    rw [filter, filters, depthOf]
    omega
  | more p before after ps => cases join <;> exact Nat.le_refl _

/-- Around the operands of a level there is at most one chain of it, and each pair of parentheses
holds two levels of chains. -/
theorem depth_le (p : Phrase level) (rest : List Char) :
    (p.filter rest).depth ≤ 2 * p.groups + level.rank ∧
      ∀ join, level = .chain join →
        depthOf (p.filters rest) ≤ 2 * p.groups + (Level.operand join).rank := by
  induction p generalizing rest with
  | clause w => exact ⟨Nat.zero_le _, nofun⟩
  | group before body after ih =>
    refine ⟨?_, nofun⟩
    have hbody := (ih (after ++ ')' :: rest)).1
    rw [filter, groups]
    simp only [Level.rank] at hbody ⊢
    omega
  | @one join p ih =>
    have hp := (ih rest).1
    have hrank := Level.rank_operand_lt join
    refine ⟨?_, ?_⟩
    · rw [filter, groups]
      omega
    · rintro _ ⟨⟩
      rw [filters, groups, depthOf, depthOf]
      omega
  | @more join p before after ps ihp ihps =>
    have hp := (ihp (before ++ mark join :: (after ++ (ps.text ++ rest)))).1
    have hps := (ihps rest).2 join rfl
    have hoperands : depthOf ((more p before after ps).filters rest) ≤
        2 * (more p before after ps).groups + (Level.operand join).rank := by
      rw [filters, groups, depthOf]
      omega
    refine ⟨?_, ?_⟩
    · have hdepth := (more p before after ps).depth_filter_le_depthOf rest
      have hrank := Level.rank_operand_lt join
      omega
    · rintro _ ⟨⟩
      exact hoperands

end Phrase

/-! ## Nodes -/

/-- The filter `g` stands in a filter, as a whole or below one of its chains. -/
inductive Within (g : Filter) : Filter → Prop where
  | self : Within g g
  | operand {join : Conjunction} {f : Filter} {fs : List Filter} (hf : f ∈ fs) (h : Within g f) :
      Within g (node join fs)

theorem node_inj {join' : Conjunction} {fs' : List Filter} :
    node join fs = node join' fs' ↔ join = join' ∧ fs = fs' := by
  cases join <;> cases join' <;> simp [node]

theorem within_clause_iff {c : Clause} : Within g (.clause c) ↔ g = .clause c := by
  constructor
  · generalize hf : Filter.clause c = f
    intro h
    cases h with
    | self => rfl
    | @operand join _ fs => cases join <;> cases hf
  · rintro rfl
    exact .self

theorem within_node_iff :
    Within g (node join fs) ↔ g = node join fs ∨ ∃ f ∈ fs, Within g f := by
  constructor
  · generalize hn : node join fs = n
    intro h
    cases h with
    | self => exact .inl rfl
    | operand hf h =>
      obtain ⟨rfl, rfl⟩ := node_inj.1 hn
      exact .inr ⟨_, hf, h⟩
  · rintro (rfl | ⟨f, hf, h⟩)
    · exact .self
    · exact .operand hf h

namespace Phrase

theorem filters_ne_nil (p : Phrase level) (rest : List Char) : p.filters rest ≠ [] := by
  cases p <;> simp [filters]

/-- What stands in an operand stands in the chain, which may be that operand. -/
theorem within_filter {p : Phrase level} (hf : f ∈ p.filters rest) (h : Within g f) :
    Within g (p.filter rest) := by
  cases p with
  | clause w =>
    rw [filters, List.mem_singleton] at hf
    rwa [filter, ← hf]
  | group before body after =>
    rw [filters, List.mem_singleton] at hf
    rwa [filter, ← hf]
  | one p =>
    rw [filters, List.mem_singleton] at hf
    rwa [filter, ← hf]
  | more p before after ps => exact .operand hf h

/-- Every node of a derived filter has at least two operands. -/
theorem two_le_length_of_within {p : Phrase level} (h : Within (node join fs) (p.filter rest)) :
    2 ≤ fs.length := by
  induction p generalizing rest with
  | clause w =>
    rw [filter, within_clause_iff] at h
    cases join <;> cases h
  | group before body after ih => exact ih h
  | one p ih => exact ih h
  | more p before after ps ihp ihps =>
    rw [filter, within_node_iff] at h
    rcases h with h | ⟨f, hf, h⟩
    · obtain ⟨-, rfl⟩ := node_inj.1 h
      have hps := List.length_pos_iff.2 (ps.filters_ne_nil rest)
      rw [List.length_cons]
      omega
    · rcases List.mem_cons.1 hf with rfl | hf
      · exact ihp h
      · exact ihps (within_filter hf h)

end Phrase

/-! ## Texts without an expression -/

variable {source : List Char} {resolver : Resolver} {text : String}

/-- No derived filter lacks an expression unless the resolver says so. -/
theorem Phrase.resolve_ne_missingExpression {p : Phrase level} (hp : p.text = source)
    (h : ∀ name, resolver name ≠ .error .missingExpression) :
    (p.filter []).resolve source resolver ≠ .error .missingExpression := by
  intro hresolve
  obtain ⟨_, w, _, before, after, -, -, htext, -, -, hclause⟩ :=
    Phrase.failsAt (Phrase.failsFirst_of_resolve hresolve)
  rw [hp] at htext
  rw [List.append_nil] at hclause
  cases Wording.clash_of_resolve htext hclause with
  | column hname => exact h _ hname

theorem parse_eq_missingExpression_iff (h : ∀ name, resolver name ≠ .error .missingExpression) :
    parse resolver text = .error .missingExpression ↔ AllWhiteSpace text.toList := by
  rw [← trim_eq_nil_iff]
  constructor
  · intro hparse
    by_contra hne
    by_cases hderived : ∃ p : Phrase .whole, p.text = trim text.toList
    · obtain ⟨p, hp⟩ := hderived
      simp only [parse, (read_eq_ok_iff (trimmed_trim _)).2 ⟨p, hp, rfl⟩] at hparse
      exact p.resolve_ne_missingExpression hp h hparse
    · obtain ⟨before, rest, fault, -, hread, -⟩ :=
        read_of_rejected (trimmed_trim _) hne (not_exists.1 hderived)
      simp only [parse, hread] at hparse
      cases hparse
  · intro hnil
    rw [parse, hnil]
    rfl

/-- Every chain in what is read has at least two operands, so joining their conditions never fails,
and the filter is at most twice as deep as its text has parentheses around each other, with two more
for the chains outside of them. White space apart, no text lacks an expression. -/
theorem take_whole_flat :
    (∀ s f rest, (take .whole s).Gives f rest →
      (∃ taken, s = taken ++ rest ∧ nesting taken ≤ nesting s ∧
        f.depth ≤ 2 * (nesting taken + 1)) ∧
      ∀ join fs, Within (node join fs) f → 2 ≤ fs.length ∧
        ∀ source resolver cs, resolveEach source resolver fs [] = .ok cs →
          ∃ c, joined join cs = .ok c) ∧
    ∀ (resolver : Resolver) (text : String), (∀ name, resolver name ≠ .error .missingExpression) →
      (parse resolver text = .error .missingExpression ↔ AllWhiteSpace text.toList) := by
  refine ⟨fun s f rest h => ?_, fun _ _ h => parse_eq_missingExpression_iff h⟩
  obtain ⟨before, after, p, rfl, rfl, -, -⟩ := derives_of_gives h
  refine ⟨⟨before ++ (p.text ++ after), by simp, ?_, ?_⟩, fun join fs hwithin => ?_⟩
  · simpa using nesting_le_append (before ++ (p.text ++ after)) rest
  · have hdepth := (p.depth_le (after ++ rest)).1
    rw [p.nesting_text, Nat.mul_succ]
    exact hdepth
  · have hlength := Phrase.two_le_length_of_within hwithin
    exact ⟨hlength, fun _ _ _ heach => exists_joined _ heach (List.ne_nil_of_length_pos (by omega))⟩

/-- `a=1|b=2&(c=3|d=4&e='(')`: a chain of each conjunction, and both again in parentheses. -/
def nested : Phrase .whole :=
  .more (.one (.clause (.compact "a" .eq (.bare ['1'])))) .empty .empty
    (.one (.more (.clause (.compact "b" .eq (.bare ['2']))) .empty .empty
      (.one (.group .empty
        (.more (.one (.clause (.compact "c" .eq (.bare ['3'])))) .empty .empty
          (.one (.more (.clause (.compact "d" .eq (.bare ['4']))) .empty .empty
            (.one (.clause (.compact "e" .eq (.quoted ['(']))))))) .empty))))

theorem take_whole_flat_nested :
    nested.text = "a=1|b=2&(c=3|d=4&e='(')".toList ∧ nesting nested.text = 1 ∧
      (nested.filter []).depth = 4 ∧ (take .whole nested.text).Gives (nested.filter []) [] ∧
      (∃ taken, nested.text = taken ++ [] ∧ nesting taken ≤ nesting nested.text ∧
        (nested.filter []).depth ≤ 2 * (nesting taken + 1)) ∧
      parse nameAndType "\t\u3000" = .error .missingExpression := by
  have hgives := take_text nested
  have hresolver (name : String) : nameAndType name ≠ .error .missingExpression := by
    unfold nameAndType Resolver.ofFields
    split <;> exact nofun
  have hspace : AllWhiteSpace "\t\u3000".toList := by simp [AllWhiteSpace]; decide
  refine ⟨by decide, by decide, by decide, hgives, (take_whole_flat.1 _ _ _ hgives).1, ?_⟩
  exact (take_whole_flat.2 _ _ hresolver).2 hspace

end SearchFilter.Filter
