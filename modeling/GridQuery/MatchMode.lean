import GridQuery.Error
import GridQuery.Text.Blank
import GridQuery.Value.Text

/-!
The ways a filter compares a column with its value.
-/

namespace GridQuery

inductive MatchMode where
  | equals
  | notEquals
  | contains
  | notContains
  | startsWith
  | endsWith
  | lt
  | lte
  | gt
  | gte
  | isIn
  | notIn
  | between
  | dateIs
  | dateIsNot
  | dateBefore
  | dateAfter
  deriving DecidableEq, Repr

namespace MatchMode

def all : List MatchMode :=
  [equals, notEquals, contains, notContains, startsWith, endsWith, lt, lte, gt, gte, isIn, notIn,
    between, dateIs, dateIsNot, dateBefore, dateAfter]

def name : MatchMode → String
  | equals => "equals"
  | notEquals => "notEquals"
  | contains => "contains"
  | notContains => "notContains"
  | startsWith => "startsWith"
  | endsWith => "endsWith"
  | lt => "lt"
  | lte => "lte"
  | gt => "gt"
  | gte => "gte"
  | isIn => "in"
  | notIn => "notIn"
  | between => "between"
  | dateIs => "dateIs"
  | dateIsNot => "dateIsNot"
  | dateBefore => "dateBefore"
  | dateAfter => "dateAfter"

/-- The modes that look for a text within the text of a column. -/
def substringModes : List MatchMode := [contains, notContains, startsWith, endsWith]

def ofName? (name : String) : Option MatchMode :=
  all.find? (·.name == name)

/-- The mode that a request asks for; without a request it is `equals`. -/
def read (raw : Value) (field : Option String) : Outcome MatchMode := do
  let text ← (raw.orElse (.str equals.name)).text
  match ofName? (Text.strip text) with
  | some mode => .ok mode
  | none => reject (.mode text field)

theorem read_str (name : String) (field : Option String) :
    ∃ text, read (.str name) field =
      match ofName? (Text.strip text) with
      | some mode => .ok mode
      | none => reject (.mode text field) :=
  ⟨if name = "" then equals.name else name, by rw [read, Value.orElse_str]; rfl⟩

theorem ofName?_name (mode : MatchMode) : ofName? mode.name = some mode := by
  cases mode <;> decide +kernel

end MatchMode

end GridQuery
