import SearchFilter.Proofs.Filter.Resolution

/-!
# The comparisons of a filter text

`Phrase.wordings` lists the comparisons of a derivation. In the derived text they stand in this
order, and all the rest of it is blanks, parentheses and conjunctions (`comprises_text`); the
clauses of the filter are theirs, in this order too (`forall₂_wordings_clauses`), and so are the
leaves of its condition (`forall₂_wordings_leaves`).
-/

namespace SearchFilter.Filter

open Text

/-- A character that stands between comparisons. -/
def isSeparator (c : Char) : Bool := isBlank c || c == '(' || c == ')' || c == '&' || c == '|'

/-- The text is these comparisons in this order, with nothing but separators around them. -/
inductive Comprises : List Wording → List Char → Prop where
  | separators {s : List Char} (h : ∀ c ∈ s, isSeparator c = true) : Comprises [] s
  | comparison {ws : List Wording} {s t : List Char} (w : Wording)
      (h : ∀ c ∈ s, isSeparator c = true) (ht : Comprises ws t) :
      Comprises (w :: ws) (s ++ (w.text ++ t))

namespace Comprises

variable {ws vs : List Wording} {s t : List Char}

theorem prepend (hs : ∀ c ∈ s, isSeparator c = true) (h : Comprises ws t) :
    Comprises ws (s ++ t) := by
  cases h with
  | separators h => exact .separators (List.forall_mem_append.2 ⟨hs, h⟩)
  | @comparison ws u t w h ht =>
    rw [← List.append_assoc]
    exact .comparison w (List.forall_mem_append.2 ⟨hs, h⟩) ht

theorem append (h : Comprises ws s) (ht : Comprises vs t) : Comprises (ws ++ vs) (s ++ t) := by
  induction h with
  | separators h => exact ht.prepend h
  | comparison w h _ ih =>
    rw [List.append_assoc, List.append_assoc]
    exact .comparison w h ih

end Comprises

theorem isSeparator_of_mem_blanks (b : Blanks) : ∀ c ∈ (b : List Char), isSeparator c = true := by
  intro c hc
  rw [isSeparator, b.2 c hc]
  rfl

theorem isSeparator_mark (join : Conjunction) : isSeparator (mark join) = true := by
  cases join <;> rfl

/-- A conjunction and the blanks around it separate comparisons. -/
theorem isSeparator_of_mem_between (before after : Blanks) (join : Conjunction) :
    ∀ c ∈ (before : List Char) ++ mark join :: after, isSeparator c = true :=
  List.forall_mem_append.2 ⟨isSeparator_of_mem_blanks before,
    List.forall_mem_cons.2 ⟨isSeparator_mark join, isSeparator_of_mem_blanks after⟩⟩

/-- So does a parenthesis with blanks after it. -/
theorem isSeparator_of_mem_opening (before : Blanks) :
    ∀ c ∈ '(' :: (before : List Char), isSeparator c = true :=
  List.forall_mem_cons.2 ⟨rfl, isSeparator_of_mem_blanks before⟩

/-- So does a parenthesis with blanks before it. -/
theorem isSeparator_of_mem_closing (after : Blanks) :
    ∀ c ∈ (after : List Char) ++ [')'], isSeparator c = true :=
  List.forall_mem_append.2 ⟨isSeparator_of_mem_blanks after, List.forall_mem_singleton.2 rfl⟩

namespace Phrase

/-- The comparisons of a derivation from left to right. -/
def wordings : {level : Level} → Phrase level → List Wording
  | _, .clause w => [w]
  | _, .group _ body _ => body.wordings
  | _, .one p => p.wordings
  | _, .more p _ _ ps => p.wordings ++ ps.wordings

/-- A derived text comprises the comparisons of its derivation. -/
theorem comprises_text {level : Level} (p : Phrase level) : Comprises p.wordings p.text := by
  induction p with
  | clause w =>
    have h := Comprises.comparison w (s := []) (by simp) (.separators (s := []) (by simp))
    rwa [List.nil_append, List.append_nil] at h
  | group before body after ih =>
    have h := (ih.append (.separators (isSeparator_of_mem_closing after))).prepend
      (isSeparator_of_mem_opening before)
    rwa [List.append_nil] at h
  | one p ih => exact ih
  | @more join p before after ps ihp ihps =>
    have h := ihp.append (ihps.prepend (isSeparator_of_mem_between before after join))
    rwa [List.append_assoc, List.cons_append] at h

theorem clauses_filter {level : Level} (p : Phrase level) (rest : List Char) :
    (p.filter rest).clauses = clausesOf (p.filters rest) := by
  cases p with
  | clause w => simp [filter, filters, clausesOf]
  | group before body after => simp [filter, filters, clausesOf]
  | one p => simp [filter, filters, clausesOf]
  | @more join p before after ps => cases join <;> simp [filter, filters, node, clauses]

/-- The clauses of a derived filter are those of its comparisons. -/
theorem forall₂_wordings_clauses {level : Level} (p : Phrase level) (rest : List Char) :
    List.Forall₂ (fun w k => ∃ rest, k = Wording.clause w rest) p.wordings
      (p.filter rest).clauses := by
  induction p generalizing rest with
  | clause w =>
    rw [filter, clauses]
    exact .cons ⟨rest, rfl⟩ .nil
  | group before body after ih =>
    rw [filter]
    exact ih _
  | one p ih =>
    rw [filter]
    exact ih _
  | @more join p before after ps ihp ihps =>
    rw [clauses_filter, filters, clausesOf, ← clauses_filter]
    exact List.rel_append (ihp _) (ihps _)

/-- The leaves of the condition of a derivation are what its comparisons resolve to. -/
theorem forall₂_wordings_leaves {source : List Char} {resolver : Resolver} {level : Level}
    (p : Phrase level) {rest : List Char} {c : Condition}
    (h : (p.filter rest).resolve source resolver = .ok c) :
    List.Forall₂ (fun w l => ∃ rest, (Wording.clause w rest).resolve source resolver =
      .ok (.leaf l)) p.wordings c.leaves := by
  have hwordings := p.forall₂_wordings_clauses rest
  have hclauses := forall₂_clauses _ h
  generalize p.wordings = ws, (p.filter rest).clauses = ks, c.leaves = ls at *
  induction hwordings generalizing ls with
  | nil =>
    cases hclauses
    exact .nil
  | cons hw _ ih =>
    cases hclauses with
    | cons hl hls =>
      obtain ⟨rest, rfl⟩ := hw
      exact .cons ⟨rest, hl⟩ (ih _ hls)

end Phrase

end SearchFilter.Filter
