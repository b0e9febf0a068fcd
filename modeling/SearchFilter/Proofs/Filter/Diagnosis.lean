import SearchFilter.Proofs.Filter.Printing
import SearchFilter.Proofs.Filter.Stub

/-!
# Where a text goes wrong

A text that the grammar does not derive is rejected at the first place where it cannot be the
beginning of a derived text (`read_of_rejected`): what comes before can be completed, and what comes
before together with the next character cannot. Two faults are told from their first character on
although it is the end of the text, or the next character, that is wrong: a quote that is never
closed and an exclamation mark that is no operator.
-/

namespace SearchFilter.Filter

open Text

variable {s rest : List Char} {c : Char} {level : Level}

/-! ## One character of the rest decides -/

/-- The text begins with a quote that is never closed. -/
def Unclosed (s : List Char) : Prop := s.head? = some '\'' ∧ '\'' ∉ s.tail

/-- The text begins with an exclamation mark that no equals sign follows. -/
def LoneBang (s : List Char) : Prop := s.head? = some '!' ∧ s.tail.head? ≠ some '='

/-- A closed quote is the end of a quoted literal. -/
theorem exists_of_not_unclosed (h : ¬Unclosed ('\'' :: rest)) :
    ∃ u v, '\'' ∉ u ∧ rest = u ++ '\'' :: v := by
  rw [Unclosed, not_and, not_not] at h
  obtain ⟨u, v, huv, hu⟩ := List.eq_append_cons_of_mem (h rfl)
  exact ⟨u, v, hu, huv⟩

theorem exists_of_not_loneBang (h : ¬LoneBang ('!' :: rest)) : ∃ v, rest = '=' :: v := by
  rw [LoneBang, not_and, not_not] at h
  exact List.head?_eq_some_iff.1 (h rfl)

theorem Phrase.Stops.of_head? {p : Phrase level} {t : List Char} (h : p.Stops s)
    (hhead : t.head? = s.head?) : p.Stops t := by
  induction p with
  | clause w =>
    cases hl : w.literal with
    | quoted u => simp [Stops, hl, Literal.Stops]
    | bare v =>
      simp only [Stops, hl, Literal.Stops, StartsOutside] at h ⊢
      rwa [hhead]
  | group before body after ih => trivial
  | one p ih => exact ih h
  | more p before after ps ihp ihps => exact ihps h

theorem Phrase.Ends.of_head {p : Phrase level} {after : Blanks} (h : p.Ends (after ++ c :: rest))
    (hc : isBlank c = false) (t : List Char) : p.Ends (after ++ c :: t) := by
  have hskip (u : List Char) : (skipBlanks (after ++ c :: u)).head? = some c := by
    rw [skipBlanks_append_cons _ hc, List.head?_cons]
  refine ⟨h.stops.of_head? (by simp [List.head?_append]), ?_⟩
  intro join hjoin
  rw [hskip, ← hskip rest]
  exact h.marks join hjoin

theorem Wording.Lacks.of_head {w : Wording} {part : Wording.Part} (h : w.Lacks (c :: rest) part)
    (hquote : ¬Unclosed (c :: rest)) (hbang : ¬LoneBang (c :: rest)) (t : List Char) :
    w.Lacks (c :: t) part := by
  have hhead (b : Blanks) : (b ++ c :: t).head? = (b ++ c :: rest).head? := by
    simp [List.head?_append]
  cases part with
  | name => exact startsOutside_cons.2 (startsOutside_cons.1 h)
  | operator =>
    obtain ⟨hend, hop⟩ := h
    refine ⟨by rwa [StartsOutside, hhead], ?_⟩
    rintro op u hu
    cases op with
    | eq => exact hop .eq rest (by cases hu; rfl)
    | lt | lte => exact hop .lt rest (by cases hu; rfl)
    | gt | gte => exact hop .gt rest (by cases hu; rfl)
    | neq =>
      cases hu
      obtain ⟨v, rfl⟩ := exists_of_not_loneBang hbang
      exact hop .neq v rfl
  | literal =>
    obtain ⟨hend, hliteral⟩ := h
    refine ⟨?_, ?_⟩
    · intro hop u hu
      obtain ⟨v, hv⟩ := List.head?_eq_some_iff.1 ((hhead w.afterOp).symm.trans (by rw [hu]; rfl))
      exact hend hop v hv
    · intro l u hl hu
      cases l with
      | quoted _ =>
        cases hu
        obtain ⟨a, b, ha, rfl⟩ := exists_of_not_unclosed hquote
        exact hliteral (.quoted a) b ha (by simp [Literal.text])
      | bare v =>
        obtain ⟨hne, hv⟩ := hl
        obtain ⟨d, v, rfl⟩ := List.exists_cons_of_ne_nil hne
        cases hu
        exact hliteral (.bare [c]) rest ⟨by simp, by simpa using hv c (by simp)⟩ rfl

/-- What a stub lacks is told by one character, but for a quote and an exclamation mark. -/
theorem Stub.Lacks.of_head {k : Stub level} (h : k.Lacks (c :: rest)) (hc : isBlank c = false)
    (hquote : ¬Unclosed (c :: rest)) (hbang : ¬LoneBang (c :: rest)) (t : List Char) :
    k.Lacks (c :: t) := by
  induction k with
  | clause w part => exact ⟨h.1.of_head hquote hbang t, h.2⟩
  | inside before k ih => exact ih h
  | closing before body after => exact ⟨h.1.of_head hc t, h.2⟩
  | first k ih => exact ih h
  | further p before after k ih => exact ih h

/-! ## Rejected texts -/

theorem take_text (p : Phrase .whole) : (take .whole p.text).Gives (p.filter []) [] :=
  (take_whole_gives_nil_iff p.trimmed_text).2 ⟨p, rfl, rfl⟩

/-- A text where a derivation breaks off is not derived. -/
theorem Stub.text_append_ne (k : Stub .whole) (hlacks : k.Lacks rest)
    (hblank : StartsOutside isBlank rest) (p : Phrase .whole) : p.text ≠ k.text ++ rest := by
  intro htext
  exact (htext ▸ take_text p).ne_error _ (k.take_eq_error hlacks hblank .empty)

/-- What is left of a text as messages show it. -/
def echo (rest : List Char) : String :=
  if rest = [] then "end of input" else "'" ++ String.ofList rest ++ "'"

/-- The message asks for a closing parenthesis. -/
def AsksForParen (fault : Fault) : Prop := "Expected ')'".toList <+: fault.message.toList

theorem message_comparison (rest : List Char) :
    (Fault.expected .comparison rest).message = "Expected a comparison, found " ++ echo rest := by
  cases rest <;> rfl

theorem message_closingParen (rest : List Char) :
    (Fault.expected .closingParen rest).message = "Expected ')', found " ++ echo rest := by
  cases rest <;> rfl

theorem message_trailing (rest : List Char) : (Fault.trailing rest).message =
    "Unexpected trailing content: '" ++ String.ofList rest ++ "'" := rfl

theorem asksForParen_expected_iff {what : Expectation} :
    AsksForParen (.expected what rest) ↔ what = .closingParen := by
  cases what with
  | comparison => simp [AsksForParen, message_comparison]
  | closingParen => simp [AsksForParen, message_closingParen]

theorem not_asksForParen_trailing : ¬AsksForParen (.trailing rest) := by
  simp [AsksForParen, message_trailing]

/-- What is known of a fault, `before` being what comes before its place in the text and `rest` what
comes after. -/
structure Diagnosis (before rest : List Char) (fault : Fault) : Prop where
  /-- The message shows the rest, or that there is none. -/
  message :
    (fault = .expected .comparison rest ∧
      fault.message = "Expected a comparison, found " ++ echo rest) ∨
    (fault = .expected .closingParen rest ∧
      fault.message = "Expected ')', found " ++ echo rest) ∨
    (fault = .trailing rest ∧ rest ≠ [] ∧
      fault.message = "Unexpected trailing content: '" ++ String.ofList rest ++ "'")
  /-- What comes before begins a text of the grammar. -/
  viable : ∃ p : Phrase .whole, before <+: p.text
  /-- The next character makes that impossible. -/
  blocked : ¬Unclosed rest → ¬LoneBang rest → ∀ c ∈ rest.head?, ∀ p : Phrase .whole,
    ¬before ++ [c] <+: p.text
  /-- A parenthesis is asked for exactly at the end of a filter in an open one. -/
  closing : AsksForParen fault ↔ ∃ k : Stub .whole, k.text = before ∧ k.wants = .closingParen

/-- A place where a derivation breaks off. -/
theorem Stub.diagnosis (k : Stub .whole) (hlacks : k.Lacks rest)
    (hblank : StartsOutside isBlank rest) :
    Diagnosis k.text rest (.expected k.wants rest) where
  message := by
    cases k.wants with
    | comparison => exact .inl ⟨rfl, message_comparison rest⟩
    | closingParen => exact .inr (.inl ⟨rfl, message_closingParen rest⟩)
  viable := k.exists_phrase
  blocked := by
    rintro hquote hbang c hc p ⟨u, hu⟩
    obtain ⟨t, rfl⟩ := List.head?_eq_some_iff.1 hc
    have hc := startsOutside_cons.1 hblank
    refine k.text_append_ne (hlacks.of_head hc hquote hbang u) (startsOutside_cons.2 hc) p ?_
    rw [← hu, List.append_assoc, List.singleton_append]
  closing := by
    rw [asksForParen_expected_iff]
    constructor
    · intro h
      exact ⟨k, rfl, h⟩
    · rintro ⟨k', htext, hwants⟩
      -- both stubs are where reading `k.text` alone fails
      have herror := k.take_eq_error k.lacks_nil (startsOutside_nil _) .empty
      have herror' := k'.take_eq_error k'.lacks_nil (startsOutside_nil _) .empty
      rw [htext, herror] at herror'
      injection herror' with h
      injection h with h
      rw [h, hwants]

/-- A place where something follows a whole filter. -/
theorem Phrase.diagnosis {p : Phrase .whole} {after : Blanks} (hends : p.Ends (after ++ rest))
    (hblank : StartsOutside isBlank rest) (hne : rest ≠ []) :
    Diagnosis (p.text ++ after) rest (.trailing rest) where
  message := .inr (.inr ⟨rfl, hne, message_trailing rest⟩)
  viable := by
    have hmore (q : Phrase (.operand .or)) :
        p.text ++ (after : List Char) <+: (p.concat after .empty q).text := by
      rw [Phrase.text_concat, ← List.append_assoc]
      exact List.prefix_append _ _
    exact ⟨_, hmore (.one (.clause default))⟩
  blocked := by
    rintro - - c hc q ⟨u, hu⟩
    obtain ⟨t, rfl⟩ := List.head?_eq_some_iff.1 hc
    have hc := startsOutside_cons.1 hblank
    have hgives : (take .whole q.text).Gives (p.filter (after ++ c :: u)) (c :: u) := by
      refine take_gives_iff.2
        ⟨.empty, after, p, ?_, rfl, hends.of_head hc u, startsOutside_cons.2 hc⟩
      rw [← hu]
      simp
    exact absurd (hgives.unique (take_text q)).2 (by simp)
  closing := by
    refine ⟨(fun h => absurd h not_asksForParen_trailing), ?_⟩
    rintro ⟨k, htext, -⟩
    have hgives : (take .whole (k.text ++ [])).Gives (p.filter after) [] := by
      refine take_gives_iff.2 ⟨.empty, after, p, ?_, by simp, ?_, startsOutside_nil _⟩
      · simp [htext]
      · rw [List.append_nil]
        exact (Follows.blanks .whole after).ends p
    exact absurd (k.take_eq_error k.lacks_nil (startsOutside_nil _) .empty) (hgives.ne_error _)

theorem position_append (s rest : List Char) : position (s ++ rest) rest = byteLength s := by
  simp [position]

theorem Stub.read_eq_error (k : Stub .whole) (hlacks : k.Lacks rest)
    (hblank : StartsOutside isBlank rest) (hne : k.text ++ rest ≠ []) :
    read (k.text ++ rest) = .error (.parse (byteLength k.text) (.expected k.wants rest)) := by
  have htake := k.take_eq_error hlacks hblank .empty
  rw [Blanks.coe_empty, List.nil_append] at htake
  rw [read, List.isEmpty_eq_false_iff.2 hne, htake]
  simp [failAt, Fault.rest, position_append]

theorem Stub.parse_eq_error {text : String} (k : Stub .whole) (hlacks : k.Lacks rest)
    (hblank : StartsOutside isBlank rest) (hne : k.text ++ rest ≠ [])
    (htext : trim text.toList = k.text ++ rest) (resolver : Resolver) :
    parse resolver text = .error (.parse (byteLength k.text) (.expected k.wants rest)) := by
  simp only [parse, htext, k.read_eq_error hlacks hblank hne]

theorem Phrase.read_eq_error {p : Phrase .whole} {after : Blanks} (hends : p.Ends (after ++ rest))
    (hblank : StartsOutside isBlank rest) (hne : rest ≠ []) :
    read (p.text ++ after ++ rest) =
      .error (.parse (byteLength (p.text ++ after)) (.trailing rest)) := by
  have hgives : (take .whole (p.text ++ after ++ rest)).Gives (p.filter (after ++ rest)) rest :=
    take_gives_iff.2 ⟨.empty, after, p, by simp, rfl, hends, hblank⟩
  obtain ⟨_, htake⟩ := hgives
  obtain ⟨c, t, rfl⟩ := List.exists_cons_of_ne_nil hne
  rw [read, List.isEmpty_eq_false_iff.2 (by simp), htake]
  simp only [failAt, position_append, Bool.false_eq_true, if_false]

/-- A text that the grammar does not derive has a fault, and it is where the diagnosis says. -/
theorem read_of_rejected (hs : Trimmed s) (hne : s ≠ [])
    (hrejected : ∀ p : Phrase .whole, p.text ≠ s) :
    ∃ before rest fault, s = before ++ rest ∧
      read s = .error (.parse (byteLength before) fault) ∧ Diagnosis before rest fault := by
  cases htake : take .whole s with
  | error fault =>
    obtain ⟨before, k, rest, rfl, hlacks, hblank, rfl⟩ := stops_of_error htake
    obtain rfl := Blanks.eq_empty_of_trimmed hs
    exact ⟨k.text, rest, _, rfl, k.read_eq_error hlacks hblank hne, k.diagnosis hlacks hblank⟩
  | ok taken =>
    obtain ⟨f, rest, hlt⟩ := taken
    have hgives : (take .whole s).Gives f rest := ⟨hlt, htake⟩
    have hrest : rest ≠ [] := by
      rintro rfl
      obtain ⟨p, hp, -⟩ := (take_whole_gives_nil_iff hs).1 hgives
      exact hrejected p hp
    obtain ⟨before, after, p, rfl, -, hends, hblank⟩ := derives_of_gives hgives
    obtain rfl := Blanks.eq_empty_of_trimmed hs
    refine ⟨p.text ++ after, rest, _, by simp, ?_, Phrase.diagnosis hends hblank hrest⟩
    rw [Blanks.coe_empty, List.nil_append, ← List.append_assoc]
    exact Phrase.read_eq_error hends hblank hrest

/-- The failure of a text that the grammar does not derive is placed at so many bytes from the
beginning of the trimmed text as come before the fault, whatever the columns are. -/
theorem parse_of_rejected {text : String} (hblank : trim text.toList ≠ [])
    (hrejected : ∀ p : Phrase .whole, p.text ≠ trim text.toList) :
    ∃ before rest fault, trim text.toList = before ++ rest ∧
      (∀ resolver, parse resolver text = .error (.parse (byteLength before) fault)) ∧
      byteLength before ≤ byteLength (trim text.toList) ∧
      (byteLength before = byteLength (trim text.toList) ↔ rest = []) ∧
      Diagnosis before rest fault := by
  obtain ⟨before, rest, fault, hsplit, hread, hdiagnosis⟩ :=
    read_of_rejected (trimmed_trim _) hblank hrejected
  refine ⟨before, rest, fault, hsplit, ?_, ?_, ?_, hdiagnosis⟩
  · intro resolver
    simp only [parse, hread]
  · rw [hsplit, byteLength_append]
    exact Nat.le_add_right _ _
  · rw [hsplit, byteLength_append, Nat.left_eq_add, byteLength_eq_zero_iff]

theorem fault_unique {text : String} {m n : Nat} {fault fault' : Fault}
    (h : ∀ resolver, parse resolver text = .error (.parse m fault))
    (h' : ∀ resolver, parse resolver text = .error (.parse n fault')) :
    m = n ∧ fault = fault' := by
  have hsame := (h (.ofFields [])).symm.trans (h' (.ofFields []))
  rwa [Except.error.injEq, Failure.parse.injEq] at hsame

/-- `id=1 & (näme='x' | `, which breaks off before a name. -/
def unfinished : Stub .whole :=
  .first (.further (.clause (.compact "id" .eq (.bare "1".toList))) .space .space
    (.first (.inside .empty
      (.further (.one (.clause (.compact "näme" .eq (.quoted "x".toList)))) .space .space
        (.first (.first (.clause default .name)))))))

/-- `(näme='x' & id=1 `, which breaks off before the parenthesis that closes the group. -/
def unclosed : Stub .whole :=
  .first (.first (.closing .empty
    (.one (.more (.clause (.compact "näme" .eq (.quoted "x".toList))) .space .space
      (.one (.clause (.compact "id" .eq (.bare "1".toList)))))) .space))

theorem lacks_unfinished : unfinished.Lacks [')'] := ⟨startsOutside_cons.2 (by decide), by simp⟩

theorem lacks_unclosed : unclosed.Lacks [']'] := by
  have hends : (Phrase.clause (.compact "id" .eq (.bare "1".toList))).Ends
      ((Blanks.space : List Char) ++ [']']) := ⟨startsOutside_cons.2 (by decide), nofun⟩
  refine ⟨Phrase.Ends.one_iff.2 ⟨?_, by decide⟩, by decide⟩
  exact Phrase.Ends.more_iff.2 (Phrase.Ends.one_iff.2 ⟨hends, by decide⟩)

theorem parse_of_rejected_unfinished :
    (trim " id=1 & (näme='x' | )\n".toList ≠ [] ∧
      (∀ p : Phrase .whole, p.text ≠ trim " id=1 & (näme='x' | )\n".toList) ∧
      ∃ before rest fault, trim " id=1 & (näme='x' | )\n".toList = before ++ rest ∧
        byteLength before = 20 ∧
        (∀ resolver, parse resolver " id=1 & (näme='x' | )\n" = .error (.parse 20 fault)) ∧
        (Failure.parse 20 fault).message =
          "Parse error at position 20: Expected a comparison, found ')'" ∧
        Diagnosis before rest fault) ∧
    (∀ p : Phrase .whole, p.text ≠ trim "(näme='x' & id=1 ]".toList) ∧
      ∃ before rest fault, trim "(näme='x' & id=1 ]".toList = before ++ rest ∧
        byteLength before = 18 ∧
        (∀ resolver, parse resolver "(näme='x' & id=1 ]" = .error (.parse 18 fault)) ∧
        (Failure.parse 18 fault).message =
          "Parse error at position 18: Expected ')', found ']'" ∧
        AsksForParen fault ∧ Diagnosis before rest fault := by
  have hunfinished : trim " id=1 & (näme='x' | )\n".toList = unfinished.text ++ [')'] := by decide
  have hunclosed : trim "(näme='x' & id=1 ]".toList = unclosed.text ++ [']'] := by decide
  have hblank : StartsOutside isBlank [')'] := startsOutside_cons.2 rfl
  have hblank' : StartsOutside isBlank [']'] := startsOutside_cons.2 rfl
  have hparse := unfinished.parse_eq_error lacks_unfinished hblank (by simp) hunfinished
  have hparse' := unclosed.parse_eq_error lacks_unclosed hblank' (by simp) hunclosed
  have hrejected : ∀ p : Phrase .whole, p.text ≠ trim " id=1 & (näme='x' | )\n".toList := by
    rw [hunfinished]
    exact unfinished.text_append_ne lacks_unfinished hblank
  have hrejected' : ∀ p : Phrase .whole, p.text ≠ trim "(näme='x' & id=1 ]".toList := by
    rw [hunclosed]
    exact unclosed.text_append_ne lacks_unclosed hblank'
  refine ⟨⟨by decide, hrejected, ?_⟩, hrejected', ?_⟩
  · obtain ⟨before, rest, fault, hsplit, hfault, -, -, hdiagnosis⟩ :=
      parse_of_rejected (by decide) hrejected
    obtain ⟨hplace, rfl⟩ := fault_unique hfault hparse
    rw [show byteLength unfinished.text = 20 by decide] at hplace
    rw [hplace] at hfault
    exact ⟨before, rest, _, hsplit, hplace, hfault, rfl, hdiagnosis⟩
  · obtain ⟨before, rest, fault, hsplit, hfault, -, -, hdiagnosis⟩ :=
      parse_of_rejected (by decide) hrejected'
    obtain ⟨hplace, rfl⟩ := fault_unique hfault hparse'
    rw [show byteLength unclosed.text = 18 by decide] at hplace
    rw [hplace] at hfault
    exact ⟨before, rest, _, hsplit, hplace, hfault, rfl, asksForParen_expected_iff.2 rfl,
      hdiagnosis⟩

end SearchFilter.Filter
