import SearchFilter.Binary64.Text
import SearchFilter.Column
import SearchFilter.Instant.Writing

/-!
# Values

The values that comparisons hold and that statements carry as parameters.
-/

namespace SearchFilter

/-- A parameter of a statement. `typedNull` is a null that knows the type of its column. -/
inductive Value where
  | null
  | bool (b : Bool)
  | int (n : Int64)
  | float (x : Binary64)
  | text (s : String)
  | timestamp (t : Instant)
  | typedNull (type : ColumnType)
deriving DecidableEq, Inhabited

namespace Value

/-- Equality of values. Floating-point numbers are compared as numbers, so a NaN differs from
itself and the two zeros are equal. -/
def same : Value → Value → Bool
  | .float x, .float y => x.same y
  | v, w => decide (v = w)

@[simp] theorem same_float (x y : Binary64) : same (.float x) (.float y) = x.same y := rfl

/-- A value as it is shown to people: texts and timestamps stand between single quotes. -/
def display : Value → String
  | .null => "NULL"
  | .typedNull _ => "NULL"
  | .bool b => if b then "true" else "false"
  | .int n => Text.integerText n.toInt
  | .float x => x.text .plain
  | .text s => "'" ++ s ++ "'"
  | .timestamp t => "'" ++ t.text .utc ++ "'"

/-- A 64-bit integer, if the number is one. -/
def int64? (n : Int) : Option Int64 :=
  if Int64.minValue.toInt ≤ n ∧ n ≤ Int64.maxValue.toInt then some (Int64.ofInt n) else none

/-- A 32-bit integer, if the number is one. -/
def int32? (n : Int) : Option Int32 :=
  if Int32.minValue.toInt ≤ n ∧ n ≤ Int32.maxValue.toInt then some (Int32.ofInt n) else none

end Value

end SearchFilter
