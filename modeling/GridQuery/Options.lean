import GridQuery.Error
import GridQuery.Text.Pieces
import GridQuery.Value.Text

/-!
The limits and switches of query composition.
-/

namespace GridQuery

structure Settings where
  strict : Bool := false
  relationsEnabled : Bool := true
  defaultPerPage : Int := 15
  maxPerPage : Int := 500
  maxRows : Int := 1000
  maxTermLength : Int := 255
  /-- The columns that a search over all columns leaves out, separated by commas. -/
  excludedColumns : String := "created_at,updated_at,deleted_at"
  deriving DecidableEq, Repr

def Settings.excluded (settings : Settings) : List String :=
  ((Text.split ',' settings.excludedColumns).map Text.strip).filter (!·.isEmpty)

structure QueryOptions where
  /-- A strict query refuses the first bad item; a tolerant one goes on without it. -/
  strict : Bool := false
  relationsEnabled : Bool := true
  /-- The fields that may be named; without a list every field may. -/
  allowedFields : Option (List String) := none
  defaultPerPage : Int := 15
  maxPerPage : Int := 500
  deriving DecidableEq, Repr

namespace QueryOptions

def ofSettings (settings : Settings) : QueryOptions where
  strict := settings.strict
  relationsEnabled := settings.relationsEnabled
  defaultPerPage := settings.defaultPerPage
  maxPerPage := settings.maxPerPage

def fieldAllowed (options : QueryOptions) (field : String) : Bool :=
  options.allowedFields.all (·.contains field)

/-- The names in a list; a single text stands for its characters, an object for its keys.  What is
no text is the name of no field. -/
def namesOf : Value → Option (List String)
  | .list items | .tuple items | .set items =>
      some (items.filterMap fun
        | .str name => some name
        | _ => none)
  | .str s => some (s.toList.map fun c => String.ofList [c])
  | .object members => some (members.map (·.1))
  | _ => none

def set (options : QueryOptions) (name : String) (value : Value) : Outcome QueryOptions :=
  match name, value with
  | "strict", value => .ok { options with strict := value.isTruthy }
  | "relations_enabled", value => .ok { options with relationsEnabled := value.isTruthy }
  | "default_per_page", .int n => .ok { options with defaultPerPage := n }
  | "max_per_page", .int n => .ok { options with maxPerPage := n }
  | "allowed_fields", .null => .ok { options with allowedFields := none }
  | "allowed_fields", value =>
      match namesOf value with
      | some names => .ok { options with allowedFields := some names }
      | none => giveUp .badArgument
  | _, _ => giveUp .badArgument

def override (options : QueryOptions) (values : Members) : Outcome QueryOptions :=
  values.foldlM (fun options member => options.set member.1 member.2) options

/-- What a tolerant query keeps of an item: a bad one leaves its error behind. -/
def contain {α : Type} (options : QueryOptions) : Outcome α → Outcome (Except QueryError α)
  | .ok result => .ok (.ok result)
  | .error (.rejected error) => if options.strict then reject error else .ok (.error error)
  | .error (.fault fault) => giveUp fault

end QueryOptions

end GridQuery
