import GridQuery.Schema.Linkage

/-!
The relations a query may follow.  The relations of a model that follow from
the schema are derived when the model is first looked up; a relation that was
registered under the same name wins, whenever it was registered.
-/

namespace GridQuery

abbrev Linkages := List Linkage

namespace Linkages

def named? (links : Linkages) (name : String) : Option Linkage :=
  links.find? (·.name == name)

def put (link : Linkage) : Linkages → Linkages
  | [] => [link]
  | known :: rest => if known.name = link.name then link :: rest else known :: put link rest

/-- Add a relation unless its name is taken. -/
def add (links : Linkages) (link : Linkage) : Linkages :=
  if links.any (·.name == link.name) then links else links ++ [link]

end Linkages

structure Registry where
  schema : Schema
  tables : List (String × Linkages) := []
  derived : List String := []

namespace Registry

def ofSchema (schema : Schema) : Registry := { schema }

def table (registry : Registry) (model : String) : Linkages :=
  (registry.tables.lookup model).getD []

def withTable (registry : Registry) (model : String) (links : Linkages) : Registry :=
  { registry with tables := (model, links) :: registry.tables.filter (·.1 != model) }

/-- Register a relation; it replaces one of the same name. -/
def register (registry : Registry) (link : Linkage) : Registry :=
  registry.withTable link.parent.name (.put link (registry.table link.parent.name))

def registerModel (registry : Registry) (model : Model) : Linkages × Registry :=
  let links := (registry.schema.relationsOf model).foldl .add (registry.table model.name)
  (links, { registry.withTable model.name links with derived := model.name :: registry.derived })

/-- The relations of a model, derived at its first look-up. -/
def relationsFor (registry : Registry) (model : Model) : Linkages × Registry :=
  if registry.derived.contains model.name then (registry.table model.name, registry)
  else registry.registerModel model

def get? (registry : Registry) (model : Model) (name : String) : Option Linkage :=
  (registry.relationsFor model).1.named? name

end Registry

end GridQuery
