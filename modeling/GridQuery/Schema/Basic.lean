/-!
Models and their tables.  Requests name a column by its label; the store
knows it by the name it has in its table, which may be another one.
-/

namespace GridQuery

/-- What a column holds.  Of the last five kinds the values of requests are taken as they are. -/
inductive ColumnKind where
  | text
  | integer
  | real
  | numeric
  | boolean
  | uuid
  | date
  | moment
  | time
  | interval
  | json
  | bytes
  | untyped
  deriving DecidableEq, Repr, Inhabited

structure Column where
  label : String
  name : String
  kind : ColumnKind
  isKey : Bool := false
  deriving DecidableEq, Repr, Inhabited

structure Table where
  name : String
  columns : List Column
  deriving DecidableEq, Repr, Inhabited

structure Model where
  name : String
  table : Table
  searchable : List String := []
  deriving DecidableEq, Repr, Inhabited

structure Field where
  table : String
  column : Column
  deriving DecidableEq, Repr, Inhabited

namespace Table

def fields (table : Table) : List Field :=
  table.columns.map fun column => ⟨table.name, column⟩

def fieldNamed? (table : Table) (name : String) : Option Field :=
  table.fields.find? (·.column.name == name)

end Table

namespace Model

def labels (model : Model) : List String :=
  model.table.columns.map (·.label)

def field? (model : Model) (label : String) : Option Field :=
  model.table.fields.find? (·.column.label == label)

def keys (model : Model) : List Field :=
  model.table.fields.filter (·.column.isKey)

theorem field?_eq_some {model : Model} {label : String} {field : Field}
    (found : model.field? label = some field) :
    field.column.label = label ∧ field.table = model.table.name ∧
      field.column ∈ model.table.columns := by
  have member := List.mem_of_find?_eq_some found
  have named := List.find?_some found
  simp only [Table.fields, List.mem_map] at member
  obtain ⟨column, known, rfl⟩ := member
  exact ⟨by simpa using named, rfl, known⟩

end Model

end GridQuery
