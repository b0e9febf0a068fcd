import SearchFilter.Proofs.Filter.Likeness
import SearchFilter.Proofs.Filter.Recognition
import SearchFilter.Proofs.ReleaseGroup.Search

/-!
# What of a filter text reaches a statement

The text of a search is made of fixed words, the names of the columns of the table, operators and
numbered placeholders (`Fragment`). It depends on the filter text only by the names, the operators
and the way the comparisons are joined: literals, and the page, are parameters throughout
(`search_sql_of_parseFilter`).
-/

namespace SearchFilter.ReleaseGroup

open SearchFilter.Filter SearchFilter.Text

/-- A comparison of a column of the table with a placeholder, or two fragments in parentheses with a
conjunction between them. -/
inductive Fragment : String → Prop where
  | comparison (k : Key) (op : Comparator) (n : Nat) :
      Fragment (quoteName k.toString ++ " " ++ op.sql ++ " " ++ placeholder n)
  | join {s t : String} (hs : Fragment s) (join : Conjunction) (ht : Fragment t) :
      Fragment ("( " ++ s ++ " " ++ join.sql ++ " " ++ t ++ " )")

/-- The order by a column of the table, if there is one, as it follows a fragment. -/
def orderTail : Option (Key × SortOrder) → String
  | none => ""
  | some (k, order) => " ORDER BY " ++ quoteName k.toString ++ " " ++ order.sql

/-- The sorter of a column of the table. -/
def sorterBy (sort : Option (Key × SortOrder)) : Option Sorter :=
  sort.map fun (k, order) => ⟨k.column, order⟩

/-- The texts differ, after trimming, in the literals of their comparisons and in blanks alone. -/
def Resembles (text text' : String) : Prop :=
  ∃ p p' : Phrase .whole, p.text = trim text.toList ∧ p'.text = trim text'.toList ∧ p.Alike p'

variable {text text' : String} {c c' : Condition}

/-! ## Columns -/

/-- Only columns of the table are found. -/
theorem exists_of_resolver_eq_ok {name : String} {field : Field} (h : resolver name = .ok field) :
    ∃ k : Key, field = k.field := by
  unfold resolver at h
  split at h
  · next k _ =>
    cases h
    exact ⟨k, rfl⟩
  · cases h

/-- A condition over the table compares columns of the table. -/
theorem column_of_resolve {f : Filter} {source : List Char}
    (h : f.resolve source resolver = .ok c) : ∀ l ∈ c.leaves, ∃ k : Key, l.column = k.column := by
  have hclauses := forall₂_clauses f h
  generalize f.clauses = ks, c.leaves = ls at hclauses
  induction hclauses with
  | nil => simp
  | cons hl _ ih =>
    refine List.forall_mem_cons.2 ⟨?_, ih⟩
    obtain ⟨field, v, hfield, -, hleaf⟩ := Clause.resolve_eq_ok_iff.1 hl
    obtain ⟨k, rfl⟩ := exists_of_resolver_eq_ok hfield
    cases hleaf
    exact ⟨k, rfl⟩

theorem fragment_reference (h : ∀ l ∈ c.leaves, ∃ k : Key, l.column = k.column) (n : Nat) :
    Fragment (c.reference n).1 := by
  induction c generalizing n with
  | leaf l =>
    obtain ⟨k, hk⟩ := h l (by simp [Condition.leaves])
    rw [Condition.reference, hk]
    exact .comparison k l.op n
  | node l join r ihl ihr =>
    simp only [Condition.leaves, List.mem_append] at h
    rw [Condition.reference]
    exact .join (ihl (fun d hd => h d (.inl hd)) n) join (ihr (fun d hd => h d (.inr hd)) _)

/-- The text of the query of a filter text is a fragment and its order. -/
theorem exists_fragment (h : parseFilter text = .ok c) (sort : Option (Key × SortOrder)) :
    ∃ f, Fragment f ∧ (Query.build ⟨c, sorterBy sort⟩).sql = f ++ orderTail sort := by
  obtain ⟨p, -, hp⟩ := parse_eq_ok_iff.1 h
  refine ⟨(c.reference 1).1, fragment_reference (column_of_resolve hp) 1, ?_⟩
  rw [Query.sql_build, Query.reference]
  obtain _ | ⟨k, order⟩ := sort
  · rfl
  · have hword (s : String) : " " ++ ("ORDER BY " ++ s) = " ORDER BY " ++ s := by
      rw [← String.append_assoc]
      rfl
    simp [sorterBy, orderTail, Sorter.sql, Key.column, Column.plain, Column.sql,
      String.append_assoc, hword]

/-! ## Literals -/

/-- Texts that resemble each other have conditions of the same outline. -/
theorem outline_eq_of_resembles (h : parseFilter text = .ok c) (h' : parseFilter text' = .ok c')
    (hlike : Resembles text text') : c.outline = c'.outline := by
  obtain ⟨p, p', hp, hp', halike⟩ := hlike
  obtain ⟨q, hq, hc⟩ := parse_eq_ok_iff.1 h
  obtain ⟨q', hq', hc'⟩ := parse_eq_ok_iff.1 h'
  rw [Phrase.text_injective (hq.trans hp.symm)] at hc
  rw [Phrase.text_injective (hq'.trans hp'.symm)] at hc'
  exact halike.outline_eq hc hc'

/-- No literal and no number of a page reaches the text of a search: it is the same for two filter
texts that differ in their literals alone, and for two pages, whatever the sorter. Where the
condition stands, it has a fragment, and then an order if one is asked for. -/
theorem search_sql_of_parseFilter {page : Page} (h : parseFilter text = .ok c)
    (hoffset : 0 ≤ page.offset) (hlimit : 0 ≤ page.limit) :
    (∀ text' c' page', parseFilter text' = .ok c' → Resembles text text' →
      0 ≤ page'.offset → 0 ≤ page'.limit → ∀ sorter, ∃ s s',
        search ⟨c, sorter⟩ page = .ok s ∧ search ⟨c', sorter⟩ page' = .ok s' ∧ s.sql = s'.sql) ∧
      ∀ sort, ∃ s f, search ⟨c, sorterBy sort⟩ page = .ok s ∧ Fragment f ∧
        s.sql = selectHead ++ (f ++ orderTail sort) ++ pageTail c.leafCount := by
  constructor
  · intro text' c' page' h' hlike hoffset' hlimit' sorter
    have houtline := outline_eq_of_resembles h h' hlike
    have hcount : c.leaves.length = c'.leaves.length := by
      rw [← Condition.leafCount_eq_length_leaves, ← Condition.leafCount_eq_length_leaves,
        ← c.leafCount_outline, houtline, Condition.leafCount_outline]
    have hsql : (Query.build ⟨c, sorter⟩).sql = (Query.build ⟨c', sorter⟩).sql := by
      rw [← Query.sql_build_outline ⟨c, sorter⟩, ← Query.sql_build_outline ⟨c', sorter⟩,
        Query.outline, Query.outline, houtline]
    refine ⟨_, _, search_eq_ok_iff.2 ⟨⟨hoffset, hlimit⟩, rfl⟩,
      search_eq_ok_iff.2 ⟨⟨hoffset', hlimit'⟩, rfl⟩, ?_⟩
    simp only [hsql, Query.params_build, List.length_map, hcount]
  · intro sort
    obtain ⟨f, hf, hsql⟩ := exists_fragment h sort
    refine ⟨_, f, search_eq_ok_iff.2 ⟨⟨hoffset, hlimit⟩, rfl⟩, hf, ?_⟩
    simp only [hsql, Query.params_build, List.length_map, Condition.leafCount_eq_length_leaves]

/-- `id=1 & (name<'x' | type!=null)`. -/
def innocent : Phrase .whole :=
  .one (.more (.clause (.compact "id" .eq (.bare "1".toList))) .space .space
    (.one (.group .empty
      (.more (.one (.clause (.compact "name" .lt (.quoted "x".toList)))) .space .space
        (.one (.one (.clause (.compact "type" .neq (.bare "null".toList)))))) .empty)))

/-- The same with literals that look like SQL, and with other blanks. -/
def hostile : Phrase .whole :=
  .one (.more (.clause (.compact "id" .eq (.quoted "-7".toList))) .empty .space
    (.one (.group .space
      (.more (.one (.clause (.compact "name" .lt (.quoted "$1\" ) OR (1=1; --".toList))))
        .empty .empty
        (.one (.one (.clause (.compact "type" .neq (.bare "3".toList)))))) .empty)))

def innocentCondition : Condition :=
  .and (.compare (.plain "id") .eq (.int 1))
    (.or (.compare (.plain "name") .lt (.text "x"))
      (.compare (.plain "type") .neq (.typedNull .integer)))

def hostileCondition : Condition :=
  .and (.compare (.plain "id") .eq (.int (-7)))
    (.or (.compare (.plain "name") .lt (.text "$1\" ) OR (1=1; --"))
      (.compare (.plain "type") .neq (.int 3)))

theorem search_sql_of_parseFilter_hostile :
    parseFilter "id=1 & (name<'x' | type!=null)" = .ok innocentCondition ∧
      parseFilter "id='-7'& ( name<'$1\" ) OR (1=1; --'|type!=3)" = .ok hostileCondition ∧
      Resembles "id=1 & (name<'x' | type!=null)"
        "id='-7'& ( name<'$1\" ) OR (1=1; --'|type!=3)" ∧
      ∃ s s', search ⟨innocentCondition, none⟩ ⟨0, 25⟩ = .ok s ∧
        search ⟨hostileCondition, none⟩ ⟨7, 3⟩ = .ok s' ∧ s.sql = s'.sql ∧
        s'.sql =
          "SELECT \"id\", \"name\", \"type\", \"release_date\" FROM \"release_groups\" WHERE " ++
            "( \"id\" = $1 AND ( \"name\" < $2 OR \"type\" != $3 ) ) LIMIT $4 OFFSET $5" := by
  have htext : innocent.text = trim "id=1 & (name<'x' | type!=null)".toList := by decide
  have htext' : hostile.text =
      trim "id='-7'& ( name<'$1\" ) OR (1=1; --'|type!=3)".toList := by decide
  have hparse : parseFilter _ = .ok innocentCondition :=
    parse_eq_ok_iff.2 ⟨innocent, htext, by decide⟩
  have hparse' : parseFilter _ = .ok hostileCondition :=
    parse_eq_ok_iff.2 ⟨hostile, htext', by decide⟩
  have hlike : Resembles _ _ := ⟨innocent, hostile, htext, htext',
    .one (.more _ _ _ _ (.clause rfl rfl) (.one (.group _ _ _ _
      (.more _ _ _ _ (.one (.clause rfl rfl)) (.one (.one (.clause rfl rfl)))))))⟩
  have hoffset : 0 ≤ (⟨0, 25⟩ : Page).offset := by decide
  have hlimit : 0 ≤ (⟨0, 25⟩ : Page).limit := by decide
  obtain ⟨s, s', hs, hs', hsql⟩ := (search_sql_of_parseFilter hparse hoffset hlimit).1 _ _ ⟨7, 3⟩
    hparse' hlike (by decide) (by decide) none
  refine ⟨hparse, hparse', hlike, s, s', hs, hs', hsql, ?_⟩
  rw [(search_eq_ok_iff.1 hs').2]
  decide +kernel

end SearchFilter.ReleaseGroup
