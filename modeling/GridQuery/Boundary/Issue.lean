import GridQuery.Value.Text

/-!
What a boundary finds wrong with its input.  All issues are reported together,
each with the place it was found in.
-/

namespace GridQuery

inductive PlaceStep where
  | name (name : String)
  | index (n : Nat)
  deriving DecidableEq, Repr

inductive ContentRule where
  | filtersAreJson
  | filtersAreCollection
  | fieldsAreJson
  | fieldsAreList
  | orderIsWritten
  | orderIsKnown
  deriving DecidableEq, Repr

inductive IssueKind where
  | missing
  | notInteger
  | unreadableInteger
  | hugeInteger
  | fractional
  | notFinite
  | belowLeast (least : Int)
  | aboveGreatest (greatest : Int)
  | notText
  | notUnicode
  | tooLong (limit : Int)
  | notBoolean
  | unreadableBoolean
  | notObject
  | notList
  | notDirection
  | content (rule : ContentRule)
  deriving DecidableEq, Repr

structure Issue where
  place : List PlaceStep
  kind : IssueKind
  deriving DecidableEq, Repr

/-- Something that was checked: a result, or all issues in order. -/
inductive Checked (α : Type) where
  | ok (result : α)
  | refused (issues : List Issue)
  deriving Repr

namespace IssueKind

def code : IssueKind → String
  | missing => "missing"
  | notInteger => "int_type"
  | unreadableInteger => "int_parsing"
  | hugeInteger => "int_parsing_size"
  | fractional => "int_from_float"
  | notFinite => "finite_number"
  | belowLeast _ => "greater_than_equal"
  | aboveGreatest _ => "less_than_equal"
  | notText => "string_type"
  | notUnicode => "string_unicode"
  | tooLong _ => "string_too_long"
  | notBoolean => "bool_type"
  | unreadableBoolean => "bool_parsing"
  | notObject => "dict_type"
  | notList => "list_type"
  | notDirection => "literal_error"
  | content _ => "value_error"

def ruleText : ContentRule → String
  | .filtersAreJson => "filters must be valid JSON"
  | .filtersAreCollection => "filters must be a JSON object or array"
  | .fieldsAreJson => "globalFilterFields must be valid JSON"
  | .fieldsAreList => "globalFilterFields must be a JSON array"
  | .orderIsWritten => Integer.notWrittenText
  | .orderIsKnown => "sortOrder must be one of asc, desc, 1, -1"

def message : IssueKind → String
  | missing => "Field required"
  | notInteger => "Input should be a valid integer"
  | unreadableInteger => "Input should be a valid integer, unable to parse string as an integer"
  | hugeInteger => "Unable to parse input string as an integer, exceeded maximum size"
  | fractional => "Input should be a valid integer, got a number with a fractional part"
  | notFinite => "Input should be a finite number"
  | belowLeast least => "Input should be greater than or equal to " ++ Integer.text least
  | aboveGreatest greatest => "Input should be less than or equal to " ++ Integer.text greatest
  | notText => "Input should be a valid string"
  | notUnicode => "Input should be a valid string, unable to parse raw data as a unicode string"
  | tooLong limit => "String should have at most " ++ Integer.text limit ++ " characters"
  | notBoolean => "Input should be a valid boolean"
  | unreadableBoolean => "Input should be a valid boolean, unable to interpret input"
  | notObject => "Input should be a valid dictionary"
  | notList => "Input should be a valid list"
  | notDirection => "Input should be 'asc' or 'desc'"
  | content rule => "Value error, " ++ ruleText rule

end IssueKind

namespace PlaceStep

def value : PlaceStep → Value
  | .name label => .str label
  | .index n => .int n

end PlaceStep

namespace Issue

def placeValue (issue : Issue) : Value :=
  .list (issue.place.map PlaceStep.value)

def value (issue : Issue) : Value :=
  .object [("loc", issue.placeValue), ("msg", .str issue.kind.message),
    ("type", .str issue.kind.code)]

def under (step : PlaceStep) (issue : Issue) : Issue :=
  { issue with place := step :: issue.place }

end Issue

namespace Checked

instance : Monad Checked where
  pure := ok
  bind checked next :=
    match checked with
    | ok result => next result
    | refused issues => refused issues

def issue {α : Type} (kind : IssueKind) : Checked α :=
  refused [⟨[], kind⟩]

/-- The result, if there is one. -/
def result? {α : Type} : Checked α → Option α
  | ok result => some result
  | refused _ => none

def within {α : Type} (step : PlaceStep) : Checked α → Checked α
  | ok result => ok result
  | refused issues => refused (issues.map (Issue.under step))

/-- Apply a function to what was checked; the issues of both sides are kept in order. -/
def also {α β : Type} : Checked (α → β) → Checked α → Checked β
  | ok f, ok a => ok (f a)
  | ok _, refused issues | refused issues, ok _ => refused issues
  | refused first, refused second => refused (first ++ second)

def items {α β : Type} (check : α → Checked β) (start : Nat) : List α → Checked (List β)
  | [] => ok []
  | item :: rest =>
      ((ok List.cons).also (within (.index start) (check item))).also (items check (start + 1) rest)

end Checked

end GridQuery
