import SearchFilter.ReleaseGroup

/-!
# Searching release groups

A search is a query and a page of its rows. Its statement numbers the limit and the offset after
the parameters of the query.
-/

namespace SearchFilter

/-- Which rows of a result are wanted: at most `limit`, after the first `offset`. -/
structure Page where
  offset : Int64
  limit : Int64
deriving DecidableEq, Repr, Inhabited

/-- Neither number is negative; the offset is looked at first. -/
def Page.check (p : Page) : Except Failure Unit :=
  if p.offset < 0 then
    .error (.invalidValue ("offset must not be negative, got " ++ Text.integerText p.offset.toInt))
  else if p.limit < 0 then
    .error (.invalidValue ("limit must not be negative, got " ++ Text.integerText p.limit.toInt))
  else .ok ()

namespace ReleaseGroup

/-- The beginning of every search, up to the condition. -/
def selectHead : String :=
  "SELECT " ++ ", ".intercalate (Key.all.map fun k => quoteName k.toString) ++
    " FROM " ++ quoteName table ++ " WHERE "

/-- The end of every search whose condition has `n` parameters. -/
def pageTail (n : Nat) : String :=
  " LIMIT " ++ placeholder (n + 1) ++ " OFFSET " ++ placeholder (n + 2)

/-- The statement that fetches a page of the rows of a query. -/
def search (q : Query) (p : Page) : Except Failure Statement :=
  match p.check with
  | .error e => .error e
  | .ok () =>
    let inner := q.build
    .ok ⟨selectHead ++ inner.sql ++ pageTail inner.params.length,
      inner.params ++ [.int p.limit, .int p.offset]⟩

end ReleaseGroup

end SearchFilter
