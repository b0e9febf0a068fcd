import SearchFilter.Proofs.Statement.Decoding
import SearchFilter.ReleaseGroup.Search

/-!
# The statement of a search

A search has a statement exactly for a page of which neither number is negative
(`search_eq_ok_iff`). Its query and its page can be read off the statement, as a query can be read
off its own (`statements_injective`).
-/

namespace SearchFilter

variable {q p : Query} {page page' : Page}

theorem Page.check_eq_ok_iff {page : Page} :
    page.check = .ok () ↔ 0 ≤ page.offset ∧ 0 ≤ page.limit := by
  simp only [← Int64.not_lt, Page.check]
  split
  · next h => simp [h]
  · next h =>
    split
    · next h' => simp [h']
    · next h' => simp [h, h']

theorem Page.check_of_offset_neg (h : page.offset < 0) :
    page.check = .error (.invalidValue
      ("offset must not be negative, got " ++ Text.integerText page.offset.toInt)) := by
  rw [check, if_pos h]

theorem Page.check_of_limit_neg (ho : 0 ≤ page.offset) (hl : page.limit < 0) :
    page.check = .error (.invalidValue
      ("limit must not be negative, got " ++ Text.integerText page.limit.toInt)) := by
  rw [check, if_neg (Int64.not_lt.2 ho), if_pos hl]

namespace ReleaseGroup

theorem search_eq_error_iff {e : Failure} : search q page = .error e ↔ page.check = .error e := by
  rw [search]
  cases page.check with
  | error e' => simp
  | ok u => simp

theorem search_eq_ok_iff {s : Statement} :
    search q page = .ok s ↔ (0 ≤ page.offset ∧ 0 ≤ page.limit) ∧
      s = ⟨selectHead ++ q.build.sql ++ pageTail q.build.params.length,
        q.build.params ++ [.int page.limit, .int page.offset]⟩ := by
  rw [← Page.check_eq_ok_iff, search]
  cases page.check with
  | error e => simp
  | ok u => simp [eq_comm]

/-- The statement of a search tells that of its query, and its page. -/
theorem build_eq_of_search_eq_ok {s : Statement} (hq : search q page = .ok s)
    (hp : search p page' = .ok s) : q.build = p.build ∧ page = page' := by
  obtain ⟨-, rfl⟩ := search_eq_ok_iff.1 hq
  obtain ⟨-, hs⟩ := search_eq_ok_iff.1 hp
  simp only [Statement.mk.injEq] at hs
  obtain ⟨hsql, hparams⟩ := hs
  obtain ⟨hparams, hpage⟩ := List.append_inj' hparams rfl
  simp only [List.cons.injEq, Value.int.injEq, and_true] at hpage
  rw [hparams, ← String.toList_inj] at hsql
  simp only [String.toList_append] at hsql
  have hsql := List.append_cancel_left (List.append_cancel_right hsql)
  refine ⟨?_, ?_⟩
  · cases hb : q.build
    cases hb' : p.build
    simp_all [String.toList_inj]
  · cases page
    cases page'
    simp_all

/-- Queries whose names hold no double quote are the same if their statements are, and so are
searches. -/
theorem statements_injective (hq : ∀ c ∈ q.columns, c.Unquoted) (hp : ∀ c ∈ p.columns, c.Unquoted) :
    (q.build = p.build → q = p) ∧
      ∀ page page' : Page, 0 ≤ page.offset → 0 ≤ page.limit → 0 ≤ page'.offset →
        0 ≤ page'.limit → search q page = search p page' → q = p ∧ page = page' := by
  refine ⟨Query.eq_of_build_eq hq hp, ?_⟩
  intro page page' ho hl ho' hl' h
  have hsearch : search q page = .ok _ := search_eq_ok_iff.2 ⟨⟨ho, hl⟩, rfl⟩
  obtain ⟨hbuild, hpage⟩ := build_eq_of_search_eq_ok hsearch (h.symm.trans hsearch)
  exact ⟨Query.eq_of_build_eq hq hp hbuild, hpage⟩

/-- Names that look like other parts of a statement, on both sides of a sorter. -/
def puzzling : Query :=
  ⟨.or (.compare (.plain "a = $1 OR ( b") .lt (.int 1))
      (.compare (.qualified "x.y" "AND") .lte (.text "' )")),
    some ⟨.plain "ORDER BY", .descending⟩⟩

theorem statements_injective_puzzling :
    (∀ c ∈ puzzling.columns, c.Unquoted) ∧
      search puzzling ⟨20, 10⟩ =
        search (puzzling.unsorted.sortBy ⟨.plain "ORDER BY", .descending⟩) ⟨20, 10⟩ ∧
      puzzling = puzzling.unsorted.sortBy ⟨.plain "ORDER BY", .descending⟩ := by
  have hunquoted : ∀ c ∈ puzzling.columns, c.Unquoted := by decide
  refine ⟨hunquoted, rfl, ?_⟩
  exact ((statements_injective hunquoted hunquoted).2 ⟨20, 10⟩ ⟨20, 10⟩ (by decide) (by decide)
    (by decide) (by decide) rfl).1

/-- A quote in a name would end it. -/
example : (Query.ofCondition (.compare (.plain "x\".\"y") .eq .null)).build =
    (Query.ofCondition (.compare (.qualified "x" "y") .eq .null)).build := by
  rw [Query.build_eq_words, Query.build_eq_words]
  decide

end ReleaseGroup

end SearchFilter
