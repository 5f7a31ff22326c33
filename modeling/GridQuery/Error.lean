import GridQuery.Json.Reader
import GridQuery.Text.Quoted

/-!
What can go wrong.  A `QueryError` is found in one item of a request and costs
only that item when the query is composed tolerantly.  A `Fault` is not about
an item and always ends the work.
-/

namespace GridQuery

inductive Expectation where
  | boolean
  | number
  | integer
  | date
  | moment
  | uuid
  | text
  | list
  | range
  | scalar
  | dateColumn
  deriving DecidableEq, Repr

inductive FieldProblem where
  | empty
  | notAllowed
  | unknown (model : String)
  | relationsDisabled
  | malformed
  | unknownRelation (relation model : String)
  | unknownRelated (column model : String)
  deriving DecidableEq, Repr

inductive SortProblem where
  | field (problem : FieldProblem) (name : String)
  | manyValued (relation : String)
  deriving DecidableEq, Repr

/-- What is wrong with an item of a request. -/
inductive QueryError where
  | notJson (parameter : String) (failure : Json.Failure)
  | notRecords
  | notNames
  | field (problem : FieldProblem) (name : String)
  | mode (text : String) (name : Option String)
  | filterKind (kind key : String)
  | value (column : String) (expected : Expectation)
  | sort (problem : SortProblem) (name : String)
  deriving DecidableEq, Repr

namespace QueryError

def expectationText : Expectation → String
  | .boolean => "boolean"
  | .number => "number"
  | .integer => "integer"
  | .date => "date"
  | .moment => "datetime"
  | .uuid => "uuid"
  | .text => "text"
  | .list => "list"
  | .range => "range"
  | .scalar => "scalar"
  | .dateColumn => "date column expected"

def marked (word : String) : String :=
  "\"" ++ word ++ "\""

def fieldText (name : String) : FieldProblem → String
  | .empty => "Empty field name"
  | .notAllowed => "Field " ++ marked name ++ " is not filterable"
  | .unknown model => "Unknown field " ++ marked name ++ " on " ++ model
  | .relationsDisabled => "Relation paths are disabled (" ++ marked name ++ ")"
  | .malformed => "Invalid field path " ++ marked name
  | .unknownRelation relation model =>
      "Unknown relation " ++ marked relation ++ " on " ++ model ++ " in " ++ marked name
  | .unknownRelated column model =>
      "Unknown field " ++ marked column ++ " on " ++ model ++ " in " ++ marked name

def sortText : SortProblem → String
  | .field problem name => fieldText name problem
  | .manyValued relation => "relation " ++ marked relation ++ " is multi-valued"

def message : QueryError → String
  | notJson parameter failure => parameter ++ " must be valid JSON: " ++ failure.message
  | notRecords => "filters must be an object or a list of filter records"
  | notNames => "globalFilterFields must be a list of field names"
  | field problem name => fieldText name problem
  | mode text _ => "Unsupported match mode " ++ marked text
  | filterKind kind _ => "Unsupported custom filter type " ++ marked kind
  | value column expected =>
      "Invalid filter value for field " ++ marked column ++ " (" ++ expectationText expected ++ ")"
  | sort problem name => "Cannot sort by " ++ marked name ++ ": " ++ sortText problem

/-- The field that the error is about. -/
def field? : QueryError → Option String
  | notJson .. | notRecords | notNames => none
  | mode _ name => name
  | field _ name | filterKind _ name | value name _ | sort _ name => some name

end QueryError

/-- What ends the work, whatever is tolerated. -/
inductive Fault where
  /-- An infinite number was asked for its integer. -/
  | infiniteInteger
  /-- The undefined number was asked for its integer. -/
  | undefinedInteger
  /-- An infinite decimal was asked for its integer. -/
  | infiniteDecimal
  /-- An undefined decimal was asked for its integer. -/
  | undefinedDecimal
  /-- An integer is beyond the doubles. -/
  | hugeDouble
  /-- The number of pages is beyond the doubles. -/
  | hugeQuotient
  /-- An integer does not fit the store. -/
  | hugeParameter
  /-- An integer has too many digits for a text. -/
  | hugeText
  /-- There is no next day. -/
  | pastLastDay
  /-- A text, shown as a literal, is no integer. -/
  | notInteger (shown : String) (failure : Integer.Failure)
  /-- A signaling undefined number was asked for its double. -/
  | signalingNumber
  /-- A relation was registered with a cardinality of no known name. -/
  | unknownCardinality (name : String)
  /-- Null, true or false was to be compared by order. -/
  | unorderedConstant
  /-- A call got an argument of a wrong kind. -/
  | badArgument
  /-- A declaration names a model, a table or a column that there is not. -/
  | undeclared
  /-- A parameter cannot be written in the form its column is stored in. -/
  | unstorable
  /-- The store does not know a column, or knows it more than once. -/
  | unresolved
  /-- The store has no form for a parameter. -/
  | unsupportedParameter
  deriving DecidableEq, Repr

namespace Fault

def message? : Fault → Option String
  | infiniteInteger => some "cannot convert float infinity to integer"
  | undefinedInteger => some "cannot convert float NaN to integer"
  | infiniteDecimal => some "cannot convert Infinity to integer"
  | undefinedDecimal => some "cannot convert NaN to integer"
  | hugeDouble => some "int too large to convert to float"
  | hugeQuotient => some "integer division result too large for a float"
  | hugeParameter => some "Python int too large to convert to SQLite INTEGER"
  | hugeText => some Integer.notWrittenText
  | pastLastDay => some "date value out of range"
  | notInteger _ (.tooLong digits) => some (Integer.tooLongText digits)
  | notInteger shown .malformed => some ("invalid literal for int() with base 10: " ++ shown)
  | signalingNumber => some "cannot convert signaling NaN to float"
  | unknownCardinality name => some (Text.quote name ++ " is not a valid Cardinality")
  | _ => none

end Fault

inductive Failure where
  | rejected (error : QueryError)
  | fault (fault : Fault)
  deriving DecidableEq, Repr

abbrev Outcome := Except Failure

def reject {α : Type} (error : QueryError) : Outcome α :=
  .error (.rejected error)

def giveUp {α : Type} (fault : Fault) : Outcome α :=
  .error (.fault fault)

end GridQuery
