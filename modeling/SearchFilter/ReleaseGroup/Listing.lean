import SearchFilter.Instant.Writing
import SearchFilter.ReleaseGroup
import SearchFilter.Terminal

/-!
# Release groups as a table

Every column is as wide as its longest cell or heading, counted in characters.
-/

namespace SearchFilter.ReleaseGroup.Listing

/-- The headings of the columns. -/
def headings : List String := Key.all.map Key.toString

/-- The cells of a row. Of a date only the day is shown. -/
def cells (g : ReleaseGroup) : List String :=
  [Text.integerText g.id.toInt, g.name, Text.integerText g.type.toInt,
    String.ofList g.releaseDate.date.text]

/-- Widen columns to the cells of a row. -/
def widen (widths : List Nat) (row : List String) : List Nat :=
  List.zipWith (fun w cell => max w cell.length) widths row

/-- The widths of the columns. -/
def widths (rows : List (List String)) : List Nat :=
  rows.foldl widen (headings.map String.length)

/-- Cells on a line, each filled up to its column. -/
def line (ws : List Nat) (row : List String) : String :=
  " │ ".intercalate (List.zipWith Terminal.pad ws row)

/-- The line between the headings and the rows. -/
def rule (ws : List Nat) : String :=
  "─┼─".intercalate (ws.map fun w => String.ofList (List.replicate w '─'))

/-- The headings, the rule and the rows. -/
structure Sheet where
  heading : String
  rule : String
  rows : List String
  count : Nat

/-- The table of some rows. -/
def sheet (gs : List ReleaseGroup) : Sheet :=
  let rows := gs.map cells
  let ws := widths rows
  ⟨line ws headings, rule ws, rows.map (line ws), gs.length⟩

end SearchFilter.ReleaseGroup.Listing
