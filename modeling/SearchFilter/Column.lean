/-!
# Columns and their types

A column is named, perhaps within a table. Names are written between double quotes in SQL and are
never escaped: they come from a closed set that the caller trusts.
-/

namespace SearchFilter

/-- The declared type of a column. -/
inductive ColumnType where
  | integer
  | float
  | bool
  | text
  | timestamp
deriving DecidableEq, Repr, Inhabited

namespace ColumnType

def all : List ColumnType := [.integer, .float, .bool, .text, .timestamp]

/-- The name of a type in schemas. -/
def name : ColumnType → String
  | .integer => "integer"
  | .float => "float"
  | .bool => "bool"
  | .text => "text"
  | .timestamp => "timestamp"

/-- The name of a type in SQL. -/
def sqlName : ColumnType → String
  | .integer => "integer"
  | .float => "double precision"
  | .bool => "boolean"
  | .text => "text"
  | .timestamp => "timestamptz"

/-- The type of a schema name. -/
def ofName? (s : String) : Option ColumnType := all.find? fun t => t.name == s

theorem ofName?_name (t : ColumnType) : ofName? t.name = some t := by cases t <;> decide

end ColumnType

/-- A column, perhaps qualified by its table. -/
structure Column where
  table : Option String
  name : String
deriving DecidableEq, Repr, Inhabited

namespace Column

/-- A column without a table. -/
def plain (name : String) : Column := ⟨none, name⟩

/-- A column of a table. -/
def qualified (table name : String) : Column := ⟨some table, name⟩

end Column

/-- A column that a filter may name, with its type if one is declared. -/
structure Field where
  column : Column
  type : Option ColumnType
deriving DecidableEq, Repr, Inhabited

end SearchFilter
