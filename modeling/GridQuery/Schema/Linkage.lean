import GridQuery.Schema.Basic

/-!
Relations between models.  A linkage leads from the rows of its parent to rows
of its target: the key pairs tell which ones, and where an association table
stands between the two, one of its rows connects them.
-/

namespace GridQuery

inductive Cardinality where
  | oneOrZero
  | many
  deriving DecidableEq, Repr

/-- Two columns that hold equal values in linked rows. -/
abbrev KeyPair := Field × Field

/-- A table whose rows connect target rows with parent rows. -/
structure Association where
  table : String
  /-- Pairs of a target column and an association column. -/
  keys : List KeyPair
  deriving DecidableEq, Repr

structure Linkage where
  name : String
  parent : Model
  target : Model
  cardinality : Cardinality
  /-- Pairs of a parent column and a column of the association table, or else of the target. -/
  keys : List KeyPair
  association : Option Association := none
  deriving DecidableEq, Repr

namespace Linkage

def singleValued (link : Linkage) : Bool :=
  link.cardinality == .oneOrZero

end Linkage

/-- The models, the tables between them, and the relations that follow from the keys. -/
structure Schema where
  models : List Model
  associations : List Table
  relations : List Linkage

namespace Schema

def model? (schema : Schema) (name : String) : Option Model :=
  schema.models.find? (·.name == name)

def field? (schema : Schema) (table column : String) : Option Field :=
  let tables := schema.models.map (·.table) ++ schema.associations
  (tables.find? (·.name == table)).bind (·.fieldNamed? column)

def relationsOf (schema : Schema) (model : Model) : List Linkage :=
  schema.relations.filter (·.parent.name == model.name)

end Schema

end GridQuery
