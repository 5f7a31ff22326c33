import GridQuery.Clause

/-!
The columns that a search runs against.
-/

namespace GridQuery

namespace Search

def allColumns : String := "all"

/-- The columns that a caller chooses: all but the excluded ones, one, or a list of names. -/
def chosen (settings : Settings) (model : Model) (choice : Value) : Outcome (List String) :=
  match choice with
  | .str name =>
      if name = allColumns then .ok (model.labels.filter (!settings.excluded.contains ·))
      else .ok [name]
  | .list items | .tuple items | .set items => items.mapM Value.text
  | .object members => .ok (members.map (·.1))
  | .bytes content => .ok (content.map fun b => naturalText b.toNat)
  | _ => giveUp .badArgument

/-- The columns of a search: the caller's choice, else the request's, else the model's. -/
def fields (settings : Settings) (model : Model) (choice : Value) (request : Members) :
    Outcome (List String) :=
  if !choice.isNull then chosen settings model choice
  else do
    let requested ← ofChecked (Clause.searchFields (request.value "globalFilterFields"))
    .ok (if requested.isEmpty then model.searchable else requested)

end Search

end GridQuery
