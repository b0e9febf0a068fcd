import SearchFilter.Binary64.Text
import SearchFilter.Text.Graphic

/-!
# TOML documents

The tree of a document, and how a key, a table header or an array of tables enters it. Tables keep
the order in which their keys were first written. A table remembers how it came about, because
that decides whether it may be opened again.
-/

namespace SearchFilter

/-- How a table came about. -/
inductive Toml.Origin where
  /-- By its own header, or as the document. -/
  | header
  /-- As a parent in the header of another table. -/
  | parent
  /-- As a parent in a dotted key. -/
  | dotted
deriving DecidableEq, Repr

/-- A value of a document. -/
inductive Toml where
  | string (s : List Char)
  | integer (n : Int)
  | float (x : Binary64)
  | boolean (b : Bool)
  | datetime (s : List Char)
  | array (items : List Toml)
  /-- A table between braces, which is complete once written. -/
  | inline (entries : List (List Char × Toml))
  | table (origin : Toml.Origin) (entries : List (List Char × Toml))
  /-- An array of tables, the last one first. -/
  | tables (items : List Toml)

namespace Toml

/-- A key. -/
abbrev Key := List Char

/-- The keys of a table and their values. -/
abbrev Entries := List (Key × Toml)

namespace Entries

/-- The value of a key. -/
def get? (es : Entries) (k : Key) : Option Toml := (es.find? fun e => e.1 == k).map (·.2)

/-- Give a key a value: at its place if it is there, else at the end. -/
def put (es : Entries) (k : Key) (v : Toml) : Entries :=
  if es.any fun e => e.1 == k then es.map fun e => if e.1 == k then (k, v) else e
  else es ++ [(k, v)]

/-- Take a key away. -/
def erase (es : Entries) (k : Key) : Entries := es.filter fun e => e.1 != k

end Entries

/-- A table that may be extended. -/
structure Table where
  origin : Origin
  entries : Entries

namespace Table

def empty (origin : Origin) : Table := ⟨origin, []⟩

/-- The table as a value. -/
def toToml (t : Table) : Toml := .table t.origin t.entries

/-- Change the table at the end of a path, making the tables on the way that are not there. The
path goes through the last table of an array of tables. A dotted key may not enter a table that has
its own header, and no path enters a value. -/
def change? (dotted : Bool) (f : Table → Option Table) : List Key → Table → Option Table
  | [], t => f t
  | k :: ks, t =>
    match t.entries.get? k with
    | none => do
      let u ← change? dotted f ks (.empty (if dotted then .dotted else .parent))
      some { t with entries := t.entries ++ [(k, u.toToml)] }
    | some (.table origin entries) =>
      if dotted ∧ origin = .header then none
      else do
        let u ← change? dotted f ks ⟨origin, entries⟩
        some { t with entries := t.entries.put k u.toToml }
    | some (.tables (.table origin entries :: earlier)) => do
      let u ← change? dotted f ks ⟨origin, entries⟩
      some { t with entries := t.entries.put k (.tables (u.toToml :: earlier)) }
    | some _ => none

/-- Give a key a value that it does not have yet. The key's parents are those of a dotted key. -/
def define? (t : Table) (parents : List Key) (k : Key) (v : Toml) : Option Table :=
  change? true
    (fun u =>
      if (u.origin == .dotted) == parents.isEmpty then none
      else if (u.entries.get? k).isSome then none
      else some { u with entries := u.entries ++ [(k, v)] })
    parents t

end Table

/-! ## Sections -/

/-- The last key of a path and the ones before it. -/
def splitPath? (path : List Key) : Option (List Key × Key) :=
  path.getLast?.map fun k => (path.dropLast, k)

/-- Where the keys that are read belong. -/
inductive Section where
  | root
  | table (parents : List Key) (key : Key)
  | element (parents : List Key) (key : Key)

/-- A document that is being read: the part before the current section, and the section. -/
structure Draft where
  root : Table
  place : Section
  current : Table

namespace Draft

def empty : Draft := ⟨.empty .header, .root, .empty .header⟩

/-- The document with the current section in its place. -/
def close? (d : Draft) : Option Table :=
  match d.place with
  | .root => some d.current
  | .table parents k =>
    d.root.change? false
      (fun t =>
        match t.entries.get? k with
        | none => some { t with entries := t.entries ++ [(k, d.current.toToml)] }
        | some _ => none)
      parents
  | .element parents k =>
    d.root.change? false
      (fun t =>
        match t.entries.get? k with
        | none => some { t with entries := t.entries ++ [(k, .tables [d.current.toToml])] }
        | some (.tables items) =>
          some { t with entries := t.entries.put k (.tables (d.current.toToml :: items)) }
        | some _ => none)
      parents

/-- Begin a table. A table that so far is only the parent of others is taken up again, at the end
of its own parent. -/
def openTable? (d : Draft) (path : List Key) : Option Draft := do
  let root ← d.close?
  let (parents, k) ← splitPath? path
  let found ← (root.change? false some parents).bind fun r => lookup? r parents
  match found.get? k with
  | none => some ⟨root, .table parents k, .empty .header⟩
  | some (.table .parent entries) =>
    let root ← root.change? false (fun t => some { t with entries := t.entries.erase k }) parents
    some ⟨root, .table parents k, ⟨.header, entries⟩⟩
  | some _ => none
where
  /-- The entries of the table at the end of a path. -/
  lookup? (t : Table) : List Key → Option Entries
    | [] => some t.entries
    | k :: ks =>
      match t.entries.get? k with
      | some (.table origin entries) => lookup? ⟨origin, entries⟩ ks
      | some (.tables (.table origin entries :: _)) => lookup? ⟨origin, entries⟩ ks
      | _ => none

/-- Begin a further element of an array of tables. -/
def openElement? (d : Draft) (path : List Key) : Option Draft := do
  let root ← d.close?
  let (parents, k) ← splitPath? path
  let found ← (root.change? false some parents).bind fun r => openTable?.lookup? r parents
  match found.get? k with
  | none => some ⟨root, .element parents k, .empty .header⟩
  | some (.tables _) => some ⟨root, .element parents k, .empty .header⟩
  | some _ => none

/-- Give a key of the current section a value. -/
def define? (d : Draft) (parents : List Key) (k : Key) (v : Toml) : Option Draft :=
  (d.current.define? parents k v).map fun t => { d with current := t }

end Draft

/-! ## Messages -/

/-- A value as messages name it. -/
def describe : Toml → String
  | .string s => "string " ++ Text.quoted (String.ofList s)
  | .integer n => "integer `" ++ Text.integerText n ++ "`"
  | .float x => "floating point `" ++ x.text .pointed ++ "`"
  | .boolean b => "boolean `" ++ (if b then "true" else "false") ++ "`"
  | .array _ => "sequence"
  | .tables _ => "sequence"
  | .datetime _ => "map"
  | .inline _ => "map"
  | .table _ _ => "map"

end Toml

end SearchFilter
