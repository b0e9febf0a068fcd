import SearchFilter.Proofs.ReleaseGroup.Search
import SearchFilter.Proofs.Statement.Placeholders

/-!
# The placeholders of a search

The text of a search is a list of words with one space between them (`ReleaseGroup.searchWords`).
Its placeholders count from 1 without a gap (`filter_searchWords`), although the numbers of the page
come from the length of a list and the others from the loop over tokens. What a placeholder stands
next to in the text is what its parameter is for (`search_numbering`).
-/

namespace SearchFilter

namespace ReleaseGroup

/-- The words before the condition of a search. -/
def headWords : List String :=
  ["SELECT", "\"id\",", "\"name\",", "\"type\",", "\"release_date\"", "FROM", "\"release_groups\"",
    "WHERE"]

/-- The words of a search. -/
def searchWords (q : Query) : List String :=
  headWords ++ q.words ++ ["LIMIT", placeholder (q.condition.leafCount + 1),
    "OFFSET", placeholder (q.condition.leafCount + 2)]

theorem length_params_build (q : Query) : q.build.params.length = q.condition.leafCount := by
  rw [Query.params_build, List.length_map, Condition.leafCount_eq_length_leaves]

theorem intercalate_searchWords (q : Query) :
    " ".intercalate (searchWords q) =
      selectHead ++ q.build.sql ++ pageTail q.condition.leafCount := by
  have hwords : q.words ≠ [] := by simp [Query.words, Condition.words_ne_nil]
  have hhead : " ".intercalate headWords ++ " " = selectHead := by decide
  rw [searchWords, List.append_assoc,
    String.intercalate_append_of_ne_nil (by decide) (by simp [hwords]),
    String.intercalate_append_of_ne_nil hwords (by simp), hhead, Query.build_eq_words]
  simp [pageTail, ← String.toList_inj]

/-- The placeholders of a search count from 1, through those of the query and those of the page. -/
theorem filter_searchWords (q : Query) :
    (searchWords q).filter isPlaceholder =
      (List.range' 1 (q.condition.leafCount + 2)).map placeholder := by
  have hhead : headWords.filter isPlaceholder = [] := by decide
  have hlimit : isPlaceholder "LIMIT" = false := by decide
  have hoffset : isPlaceholder "OFFSET" = false := by decide
  have hrange (k : Nat) : List.range' 1 (k + 2) = List.range' 1 k ++ [k + 1, k + 2] := by
    simp [List.range'_concat]
    omega
  simp [searchWords, hhead, hlimit, hoffset, Query.filter_words, hrange]

theorem infix_searchWords {q : Query} {ws : List String} (h : ws <:+: q.words) :
    ws <:+: searchWords q :=
  h.trans (List.infix_append headWords q.words _)

/-- The statement has the words of the search of a page. Its placeholders count from 1, each of
them there once, and the parameter of each is what the text next to it calls for. -/
structure Numbered (q : Query) (page : Page) (s : Statement) : Prop where
  sql : s.sql = " ".intercalate (searchWords q)
  placeholders : (searchWords q).filter isPlaceholder =
    (List.range' 1 (q.condition.leafCount + 2)).map placeholder
  nodup : ((searchWords q).filter isPlaceholder).Nodup
  length : s.params.length = q.condition.leafCount + 2
  comparison : ∀ i l, q.condition.leaves[i]? = some l →
    [l.column.sql, l.op.sql, placeholder (i + 1)] <:+: searchWords q ∧ s.params[i]? = some l.value
  limit : ["LIMIT", placeholder (q.condition.leafCount + 1)] <:+: searchWords q ∧
    s.params[q.condition.leafCount]? = some (.int page.limit)
  offset : ["OFFSET", placeholder (q.condition.leafCount + 2)] <:+: searchWords q ∧
    s.params[q.condition.leafCount + 1]? = some (.int page.offset)

theorem numbered_of_search {q : Query} {page : Page} {s : Statement}
    (h : search q page = .ok s) : Numbered q page s := by
  obtain ⟨-, rfl⟩ := search_eq_ok_iff.1 h
  have hlength := length_params_build q
  refine ⟨?_, filter_searchWords q, ?_, ?_, ?_, ⟨?_, ?_⟩, ⟨?_, ?_⟩⟩
  · rw [intercalate_searchWords, hlength]
  · rw [filter_searchWords]
    exact (List.nodup_range').map placeholder_injective
  · rw [List.length_append, hlength]
    rfl
  · intro i l hl
    have hi : i < q.condition.leaves.length := (List.getElem?_eq_some_iff.1 hl).1
    refine ⟨infix_searchWords ?_, ?_⟩
    · have hwords := Condition.infix_words hl 1
      rw [Nat.add_comm 1 i] at hwords
      exact hwords.trans (List.prefix_append _ _).isInfix
    · rw [Query.params_build, List.getElem?_append_left (by simpa using hi), List.getElem?_map, hl,
        Option.map_some]
  · exact ⟨headWords ++ q.words, ["OFFSET", placeholder (q.condition.leafCount + 2)],
      by simp [searchWords]⟩
  · rw [← hlength, List.getElem?_append_right (Nat.le_refl _), Nat.sub_self]
    rfl
  · exact ⟨headWords ++ q.words ++ ["LIMIT", placeholder (q.condition.leafCount + 1)], [],
      by simp [searchWords]⟩
  · rw [← hlength, List.getElem?_append_right (Nat.le_add_right _ 1), Nat.add_sub_cancel_left]
    rfl

/-- A search fails exactly if a number of its page is negative, and names the offset first. Else its
text is that of the query between the fixed head and the page, whose placeholders count on from the
query's, and its parameters are the query's, the limit and the offset. -/
theorem search_numbering (q : Query) (page : Page) :
    ((∃ detail, search q page = .error (.invalidValue detail)) ↔
        page.offset < 0 ∨ page.limit < 0) ∧
      (page.offset < 0 → search q page = .error (.invalidValue
        ("offset must not be negative, got " ++ Text.integerText page.offset.toInt))) ∧
      (0 ≤ page.offset → page.limit < 0 → search q page = .error (.invalidValue
        ("limit must not be negative, got " ++ Text.integerText page.limit.toInt))) ∧
      (0 ≤ page.offset → 0 ≤ page.limit → ∃ s, search q page = .ok s ∧
        s.sql = selectHead ++ q.build.sql ++ (" LIMIT " ++ placeholder (q.condition.leafCount + 1) ++
          " OFFSET " ++ placeholder (q.condition.leafCount + 2)) ∧
        s.params = q.build.params ++ [.int page.limit, .int page.offset] ∧
        Numbered q page s) := by
  have hoffset (h : page.offset < 0) : search q page = .error _ :=
    search_eq_error_iff.2 (Page.check_of_offset_neg h)
  have hlimit (ho : 0 ≤ page.offset) (hl : page.limit < 0) : search q page = .error _ :=
    search_eq_error_iff.2 (Page.check_of_limit_neg ho hl)
  refine ⟨⟨?_, ?_⟩, hoffset, hlimit, ?_⟩
  · rintro ⟨detail, h⟩
    by_contra hpage
    rw [not_or, Int64.not_lt, Int64.not_lt] at hpage
    cases h.symm.trans (search_eq_ok_iff.2 ⟨hpage, rfl⟩)
  · intro h
    by_cases ho : page.offset < 0
    · exact ⟨_, hoffset ho⟩
    · exact ⟨_, hlimit (Int64.not_lt.1 ho) (h.resolve_left ho)⟩
  · intro ho hl
    have hsearch : search q page = .ok _ := search_eq_ok_iff.2 ⟨⟨ho, hl⟩, rfl⟩
    refine ⟨_, hsearch, ?_, rfl, numbered_of_search hsearch⟩
    rw [length_params_build]
    rfl

/-- A name that looks like a placeholder, and values out of order. -/
def lookalike : Query :=
  ⟨.or (.compare (.qualified "$3" "x = $2") .eq (.int 3)) (.compare (.plain "$1") .gte (.text "$1")),
    some ⟨.plain "$4", .ascending⟩⟩

theorem search_numbering_lookalike :
    (∃ s, search lookalike ⟨40, 20⟩ = .ok s ∧ Numbered lookalike ⟨40, 20⟩ s ∧
      s.sql =
        "SELECT \"id\", \"name\", \"type\", \"release_date\" FROM \"release_groups\" WHERE " ++
          "( \"$3\".\"x = $2\" = $1 OR \"$1\" >= $2 ) ORDER BY \"$4\" ASC LIMIT $3 OFFSET $4" ∧
      s.params = [.int 3, .text "$1", .int 20, .int 40]) ∧
    search lookalike ⟨-1, -2⟩ =
      .error (.invalidValue "offset must not be negative, got -1") := by
  have hparams : lookalike.build.params = [.int 3, .text "$1"] := by
    rw [Query.params_build]
    rfl
  refine ⟨?_, (search_numbering lookalike ⟨-1, -2⟩).2.1 (by decide)⟩
  obtain ⟨s, hs, -, hall, hnumbered⟩ :=
    (search_numbering lookalike ⟨40, 20⟩).2.2.2 (by decide) (by decide)
  refine ⟨s, hs, hnumbered, ?_, by rw [hall, hparams]; rfl⟩
  rw [(search_eq_ok_iff.1 hs).2]
  decide +kernel

end ReleaseGroup

end SearchFilter
