import GridQuery.Error
import GridQuery.Schema.Linkage
import GridQuery.Value.Text

/-!
Relations declared by the names of their models and columns.
-/

namespace GridQuery

def Cardinality.ofName (name : String) : Outcome Cardinality :=
  if name = "one_or_zero" then .ok .oneOrZero
  else if name = "many" then .ok .many
  else giveUp (.unknownCardinality name)

def Cardinality.name : Cardinality → String
  | .oneOrZero => "one_or_zero"
  | .many => "many"

/-- A column by its table's name and its own, with a point between them. -/
def Schema.declaredField (schema : Schema) (value : Value) : Outcome Field :=
  match value with
  | .str s =>
      let table := String.ofList (s.toList.takeWhile (· ≠ '.'))
      let column := String.ofList (s.toList.drop (table.length + 1))
      match schema.field? table column with
      | some field => .ok field
      | none => giveUp .undeclared
  | _ => giveUp .badArgument

def Schema.declaredKeys (schema : Schema) (value : Value) : Outcome (List KeyPair) :=
  match value with
  | .list pairs =>
      pairs.mapM fun
        | .list [first, second] => do
            let first ← schema.declaredField first
            let second ← schema.declaredField second
            .ok (first, second)
        | _ => giveUp .badArgument
  | _ => .ok []

def Schema.declaredModel (schema : Schema) (value : Value) : Outcome Model := do
  match schema.model? (← value.text) with
  | some model => .ok model
  | none => giveUp .undeclared

def Linkage.declare (schema : Schema) (declaration : Members) : Outcome Linkage := do
  let parent ← schema.declaredModel (declaration.value "parent")
  let target ← schema.declaredModel (declaration.value "target")
  let cardinality ← Cardinality.ofName (← (declaration.value "cardinality").text)
  let keys ← schema.declaredKeys (declaration.value "keys")
  let associationKeys ← schema.declaredKeys (declaration.value "secondary_keys")
  let association := match declaration.value "secondary" with
    | .str table => some ⟨table, associationKeys⟩
    | _ => none
  let name ← (declaration.value "name").text
  .ok ⟨name, parent, target, cardinality, keys, association⟩

end GridQuery
