import Mathlib.Data.List.Forall2
import Mathlib.Order.Bounds.Basic
import SearchFilter.CommandLine.Run

/-!
# The table of found rows

The lines of the table have one length and their marks stand one below the other
(`groupLines_table`). Two facts meet here. The widths grow row by row, and after each row every
column is as wide as the longest of its cells so far (`Fitted.widen`); hence no cell is longer than
its column. Parts of given lengths with three characters between any two of them begin at places
that depend on the lengths alone (`drop_start`); hence the cells and the marks of all lines stand at
the same places.
-/

namespace SearchFilter.ReleaseGroup.Listing

variable {table rows : List (List String)} {row : List String} {cell : String} {i width : Nat}
  {widths : List Nat}

/-! ## Widths -/

/-- The lengths of the cells of a column, in characters. -/
def lengths (table : List (List String)) (i : Nat) : Set Nat :=
  {n | ∃ row ∈ table, ∃ cell, row[i]? = some cell ∧ cell.length = n}

/-- Every row has a cell for each column, and every column is exactly as wide as its longest cell. -/
structure Fitted (table : List (List String)) (widths : List Nat) : Prop where
  length : ∀ row ∈ table, row.length = widths.length
  greatest : ∀ i width, widths[i]? = some width → IsGreatest (lengths table i) width

theorem lengths_singleton (h : row[i]? = some cell) : lengths [row] i = {cell.length} := by
  ext n
  simp [lengths, h, eq_comm]

theorem lengths_append (table rows : List (List String)) (i : Nat) :
    lengths (table ++ rows) i = lengths table i ∪ lengths rows i := by
  ext n
  simp only [lengths, List.mem_append, or_and_right, exists_or, Set.mem_union, Set.mem_ofPred_eq]

theorem fitted_singleton (row : List String) : Fitted [row] (row.map String.length) := by
  refine ⟨by simp, ?_⟩
  intro i width hwidth
  obtain ⟨cell, hcell, rfl⟩ := Option.map_eq_some_iff.1 (List.getElem?_map.symm.trans hwidth)
  rw [lengths_singleton hcell]
  exact isGreatest_singleton

/-- A further row widens every column to its cell there. -/
theorem Fitted.widen (h : Fitted table widths) (hrow : row.length = widths.length) :
    Fitted (table ++ [row]) (widen widths row) := by
  refine ⟨?_, ?_⟩
  · intro r hr
    rw [Listing.widen, List.length_zipWith, hrow, Nat.min_self]
    rcases List.mem_append.1 hr with hr | hr
    · exact h.length r hr
    · rw [List.mem_singleton.1 hr, hrow]
  · intro i width hwidth
    obtain ⟨w, cell, hw, hcell, rfl⟩ := List.getElem?_zipWith_eq_some.1 hwidth
    rw [lengths_append, lengths_singleton hcell]
    exact (h.greatest i w hw).union isGreatest_singleton

theorem Fitted.foldl_widen (h : Fitted table widths)
    (hrows : ∀ row ∈ rows, row.length = widths.length) :
    Fitted (table ++ rows) (rows.foldl Listing.widen widths) := by
  induction rows generalizing table widths with
  | nil => rwa [List.append_nil]
  | cons row rows ih =>
    obtain ⟨hrow, hrows⟩ := List.forall_mem_cons.1 hrows
    have hlength : (Listing.widen widths row).length = widths.length := by
      rw [Listing.widen, List.length_zipWith, hrow, Nat.min_self]
    have hfitted := ih (h.widen hrow) (by rwa [hlength])
    rwa [List.append_assoc, List.singleton_append] at hfitted

/-- The widths of a table fit its headings and its rows. -/
theorem fitted_widths (gs : List ReleaseGroup) :
    Fitted (headings :: gs.map cells) (Listing.widths (gs.map cells)) := by
  apply (fitted_singleton headings).foldl_widen
  intro row hrow
  obtain ⟨g, -, rfl⟩ := List.mem_map.1 hrow
  rfl

theorem Fitted.length_le (h : Fitted table widths) (hrow : row ∈ table) (hcell : row[i]? = some cell)
    (hwidth : widths[i]? = some width) : cell.length ≤ width :=
  (h.greatest i width hwidth).2 ⟨row, hrow, cell, hcell, rfl⟩

/-! ## Places -/

/-- Where a column begins: behind the columns before it, each of them with the three characters that
follow it. -/
def start : List Nat → Nat → Nat
  | w :: ws, i + 1 => w + 3 + start ws i
  | _, _ => 0

/-- The length of a line: its columns, and three characters between any two of them. -/
def lineLength : List Nat → Nat
  | [] => 0
  | [w] => w
  | w :: ws => w + 3 + lineLength ws

/-- A line has a mark in the middle of the three characters between any two columns. -/
structure Marked (widths : List Nat) (mark : Char) (line : String) : Prop where
  length : line.length = lineLength widths
  mark : ∀ i width, widths[i]? = some width → i + 1 < widths.length →
    line.toList[start widths i + width + 1]? = some mark

/-- A line shows cells: each with its full text, and then spaces up to the width of its column. -/
structure Shows (widths : List Nat) (row : List String) (line : String) : Prop
    extends Marked widths '│' line where
  cell : ∀ i width cell, widths[i]? = some width → row[i]? = some cell →
    (line.toList.drop (start widths i)).take width =
      cell.toList ++ List.replicate (width - cell.length) ' '

variable {sep part : List Char} {parts : List (List Char)}

theorem length_intercalate (hsep : sep.length = 3) (parts : List (List Char)) :
    (sep.intercalate parts).length = lineLength (parts.map List.length) := by
  induction parts with
  | nil => rfl
  | cons p parts ih =>
    cases parts with
    | nil => simp [lineLength]
    | cons q parts =>
      rw [List.intercalate_cons_cons]
      simp only [List.length_append, hsep, ih, List.map_cons, lineLength]

theorem drop_start (hsep : sep.length = 3) (hi : i < parts.length) :
    (sep.intercalate parts).drop (start (parts.map List.length) i) =
      sep.intercalate (parts.drop i) := by
  induction parts generalizing i with
  | nil => cases hi
  | cons p parts ih =>
    cases i with
    | zero => rfl
    | succ i =>
      have hi := Nat.lt_of_succ_lt_succ hi
      have hne : parts ≠ [] := List.ne_nil_of_length_pos (Nat.zero_lt_of_lt hi)
      have hlength : (p ++ sep).length = p.length + 3 := by rw [List.length_append, hsep]
      rw [List.map_cons, start, List.intercalate_cons_of_ne_nil hne, ← List.drop_drop,
        List.drop_left' hlength, ih hi, List.drop_succ_cons]

/-- At the start of a column is its part, and then what follows a part. -/
theorem exists_drop_start (hsep : sep.length = 3) (h : parts[i]? = some part) :
    ∃ rest, (sep.intercalate parts).drop (start (parts.map List.length) i) = part ++ rest ∧
      (i + 1 < parts.length → sep <+: rest) := by
  obtain ⟨hi, rfl⟩ := List.getElem?_eq_some_iff.1 h
  rw [drop_start hsep hi, List.drop_eq_getElem_cons hi]
  by_cases hlast : i + 1 < parts.length
  · have hne : parts.drop (i + 1) ≠ [] := fun hnil => by
      rw [List.drop_eq_nil_iff] at hnil
      omega
    rw [List.intercalate_cons_of_ne_nil hne, List.append_assoc]
    exact ⟨_, rfl, fun _ => List.prefix_append _ _⟩
  · rw [List.drop_eq_nil_iff.2 (Nat.not_lt.1 hlast), List.intercalate_singleton]
    exact ⟨[], (List.append_nil _).symm, fun h => absurd h hlast⟩

theorem map_length_toList (texts : List String) :
    (texts.map String.toList).map List.length = texts.map String.length := by
  rw [List.map_map]
  exact List.map_congr_left fun _ _ => String.length_toList

/-- Texts with marks between them make a line. -/
theorem marked_intercalate {before mark after : Char} {texts : List String}
    (hwidths : texts.map String.length = widths) :
    Marked widths mark ((String.ofList [before, mark, after]).intercalate texts) := by
  rw [← map_length_toList] at hwidths
  refine ⟨?_, ?_⟩
  · rw [← String.length_toList, String.toList_intercalate, String.toList_ofList,
      length_intercalate rfl, hwidths]
  · intro i width hwidth hi
    rw [← hwidths, List.getElem?_map, Option.map_eq_some_iff] at hwidth
    obtain ⟨part, hpart, rfl⟩ := hwidth
    have hthree : [before, mark, after].length = 3 := rfl
    obtain ⟨rest, hdrop, hsep⟩ := exists_drop_start hthree hpart
    rw [← hwidths, List.length_map] at hi
    obtain ⟨rest, rfl⟩ := hsep hi
    rw [hwidths] at hdrop
    rw [String.toList_intercalate, String.toList_ofList, Nat.add_assoc, ← List.getElem?_drop, hdrop,
      List.getElem?_append_right (Nat.le_add_right _ _), Nat.add_sub_cancel_left]
    rfl

/-! ## Lines -/

theorem toList_pad (width : Nat) (cell : String) :
    (Terminal.pad width cell).toList = cell.toList ++ List.replicate (width - cell.length) ' ' := by
  rw [Terminal.pad, String.toList_append, String.toList_ofList]

theorem length_pad (h : cell.length ≤ width) : (Terminal.pad width cell).length = width := by
  rw [← String.length_toList, toList_pad, List.length_append, List.length_replicate,
    String.length_toList, Nat.add_sub_cancel' h]

/-- No cell is longer than its column, so that all are as long as theirs once they are filled up. -/
theorem Fitted.map_length_pad (h : Fitted table widths) (hrow : row ∈ table) :
    (List.zipWith Terminal.pad widths row).map String.length = widths := by
  have hlength := h.length row hrow
  apply List.ext_getElem
  · simp [hlength]
  · intro i hi hi'
    have hcell : row[i]? = some row[i] := List.getElem?_eq_getElem (hlength ▸ hi')
    rw [List.getElem_map, List.getElem_zipWith]
    exact length_pad (h.length_le hrow hcell (List.getElem?_eq_getElem hi'))

theorem Fitted.shows_line (h : Fitted table widths) (hrow : row ∈ table) :
    Shows widths row (line widths row) := by
  have hlengths := h.map_length_pad hrow
  refine ⟨marked_intercalate hlengths, ?_⟩
  intro i width cell hwidth hcell
  have hpad : (List.zipWith Terminal.pad widths row)[i]? = some (Terminal.pad width cell) :=
    List.getElem?_zipWith_eq_some.2 ⟨_, _, hwidth, hcell, rfl⟩
  have hpart := (List.getElem?_map (f := String.toList)).trans (congrArg _ hpad)
  have hthree : " │ ".toList.length = 3 := rfl
  obtain ⟨rest, hdrop, -⟩ := exists_drop_start hthree hpart
  rw [map_length_toList, hlengths] at hdrop
  have hlength := (String.length_toList (s := Terminal.pad width cell)).trans
    (length_pad (h.length_le hrow hcell hwidth))
  rw [line, String.toList_intercalate, hdrop, List.take_left' hlength, toList_pad]

theorem marked_rule (widths : List Nat) : Marked widths '┼' (rule widths) := by
  apply marked_intercalate
  rw [List.map_map]
  exact List.map_id'' (fun w => by simp) widths

/-- The table of some rows without colours: headings, a rule, and the rows in order, and then how
many there are. -/
theorem groupLines_table (w : CommandLine.Surroundings) (gs : List ReleaseGroup)
    (hw : w.colours = false) (hgs : gs ≠ []) :
    ∃ widths heading rule rows,
      CommandLine.groupLines w .table gs = heading :: rule :: rows ++
        ["", Text.integerText rows.length ++ " row(s) returned"] ∧
      Fitted (headings :: gs.map cells) widths ∧
      Shows widths headings heading ∧ Marked widths '┼' rule ∧
      List.Forall₂ (fun g row => Shows widths (cells g) row) gs rows := by
  have hfitted := fitted_widths gs
  refine ⟨widths (gs.map cells), line (widths (gs.map cells)) headings, rule (widths (gs.map cells)),
    (gs.map cells).map (line (widths (gs.map cells))), ?_, hfitted,
    hfitted.shows_line List.mem_cons_self, marked_rule _, ?_⟩
  · have hempty : gs.isEmpty = false := List.isEmpty_eq_false_iff.2 hgs
    simp [CommandLine.groupLines, hempty, Terminal.paint, hw, sheet]
  · rw [List.map_map, List.forall₂_map_right_iff]
    apply List.forall₂_same.2
    intro g hg
    exact hfitted.shows_line (List.mem_cons_of_mem _ (List.mem_map_of_mem hg))

/-- Output that is not painted. -/
def unpainted : CommandLine.Surroundings where
  colours := false
  databaseUrl := none
  files := fun _ => .missing
  usualConfig := none
  report := fun _ _ => ""
  client := fun _ _ => .error ""

/-- A name that is wider than its heading, with a mark in it, and one of two characters. -/
def found : List ReleaseGroup :=
  [⟨-12, "Ágætis │", 1, ⟨1, 0, by decide⟩⟩, ⟨7, "音楽", 2, ⟨-62167219201, 0, by decide⟩⟩]

theorem groupLines_table_found :
    (∃ widths heading rule rows,
      CommandLine.groupLines unpainted .table found = heading :: rule :: rows ++
        ["", Text.integerText rows.length ++ " row(s) returned"] ∧
      Fitted (headings :: found.map cells) widths ∧
      Shows widths headings heading ∧ Marked widths '┼' rule ∧
      List.Forall₂ (fun g row => Shows widths (cells g) row) found rows) ∧
    CommandLine.groupLines unpainted .table found =
      ["id  │ name     │ type │ release_date",
        "────┼──────────┼──────┼─────────────",
        "-12 │ Ágætis │ │ 1    │ 1970-01-01  ",
        "7   │ 音楽       │ 2    │ -0001-12-31 ",
        "", "2 row(s) returned"] := by
  exact ⟨groupLines_table unpainted found rfl (by decide), by decide⟩

end SearchFilter.ReleaseGroup.Listing
