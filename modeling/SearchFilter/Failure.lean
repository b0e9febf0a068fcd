import SearchFilter.Column
import SearchFilter.Text.Digits

/-!
# Failures

Everything that can go wrong, by its cause. `Failure.message` is the only place with the wording.
-/

namespace SearchFilter

/-- What a filter text lacks. -/
inductive Filter.Expectation where
  | comparison
  | closingParen
deriving DecidableEq, Repr, Inhabited

/-- What is wrong with a filter text at some place. -/
inductive Filter.Fault where
  /-- Something else was expected than the rest of the text. -/
  | expected (what : Filter.Expectation) (rest : List Char)
  /-- The rest of the text does not belong to the filter. -/
  | trailing (rest : List Char)
  /-- A literal is no value of the type of its column. -/
  | mistyped (type : ColumnType) (word : List Char) (column : List Char)
  /-- A fault in other words. -/
  | other (text : String)
deriving DecidableEq, Repr, Inhabited

/-- What went wrong. -/
inductive Failure where
  /-- A filter text has a fault, so many bytes from its start. -/
  | parse (position : Nat) (fault : Filter.Fault)
  | missingExpression
  | unknownColumn (name : String)
  | invalidValue (detail : String)
  | connection (detail : String)
  | execution (detail : String)
  | config (detail : String)
  | io (detail : String)
deriving DecidableEq, Repr, Inhabited

namespace Filter

def Expectation.text : Expectation → String
  | .comparison => "a comparison"
  | .closingParen => "')'"

/-- The rest of a text as messages show it. -/
def foundText : List Char → String
  | [] => "end of input"
  | rest => "'" ++ String.ofList rest ++ "'"

def Fault.message : Fault → String
  | .expected what rest => "Expected " ++ what.text ++ ", found " ++ foundText rest
  | .trailing rest => "Unexpected trailing content: '" ++ String.ofList rest ++ "'"
  | .mistyped type word column =>
    "Expected " ++ type.sqlName ++ ", found '" ++ String.ofList word ++ "' for column '" ++
      String.ofList column ++ "'"
  | .other text => text

end Filter

namespace Failure

/-- The wording of a failure. -/
def message : Failure → String
  | .parse position fault =>
    "Parse error at position " ++ Text.integerText position ++ ": " ++ fault.message
  | .missingExpression => "Missing filter expression: a query needs at least one comparison"
  | .unknownColumn name => "Unknown column: '" ++ name ++ "'"
  | .invalidValue detail => "Invalid value: " ++ detail
  | .connection detail => "Connection error: " ++ detail
  | .execution detail => "Execution error: " ++ detail
  | .config detail => "Configuration error: " ++ detail
  | .io detail => "IO error: " ++ detail

end Failure

end SearchFilter
