import GridQuery.Options
import GridQuery.Schema.Registry

/-!
Field names.  A plain name is a column of the model; a dotted one follows a
relation at every point and ends in a column of the last target.  Names that
lead nowhere are refused; nothing a client sends becomes an identifier of its
own.
-/

namespace GridQuery

open Text

/-- Where a field name leads: over some relations to a column. -/
structure FieldPath where
  /-- The name that was asked for, without the blanks around it. -/
  name : String
  hops : List Linkage
  field : Field
  deriving DecidableEq, Repr

namespace FieldPath

def singleValued (path : FieldPath) : Bool :=
  path.hops.all (·.singleValued)

/-- The relations and the column that a dotted name spells out; none of them is empty. -/
def split (name : String) : Except QueryError (List String × String) :=
  let segments := Text.split '.' name
  let hops := segments.dropLast
  let column := segments.getLast?.getD ""
  if hops.isEmpty ∨ column.isEmpty ∨ hops.any (·.isEmpty) then
    .error (.field .malformed name)
  else .ok (hops, column)

def follow (registry : Registry) (name : String) (model : Model) :
    List String → Except QueryError (List Linkage × Model)
  | [] => .ok ([], model)
  | hop :: later =>
      match registry.get? model hop with
      | none => .error (.field (.unknownRelation hop model.name) name)
      | some link => do
          let (links, target) ← follow registry name link.target later
          .ok (link :: links, target)

def resolvePlain (model : Model) (name : String) : Except QueryError FieldPath :=
  match model.field? name with
  | none => .error (.field (.unknown model.name) name)
  | some field => .ok ⟨name, [], field⟩

def resolveDotted (registry : Registry) (model : Model) (name : String) :
    Except QueryError FieldPath := do
  let (hops, column) ← split name
  let (links, target) ← follow registry name model hops
  match target.field? column with
  | none => .error (.field (.unknownRelated column target.name) name)
  | some field => .ok ⟨name, links, field⟩

/-- Where a name leads, blanks around it apart. -/
def resolveName (registry : Registry) (options : QueryOptions) (model : Model) (name : String) :
    Except QueryError FieldPath :=
  if name.isEmpty then .error (.field .empty name)
  else if !options.fieldAllowed name then .error (.field .notAllowed name)
  else if !name.toList.contains '.' then resolvePlain model name
  else if !options.relationsEnabled then .error (.field .relationsDisabled name)
  else resolveDotted registry model name

end FieldPath

def ofChecked {α : Type} : Except QueryError α → Outcome α
  | .ok result => .ok result
  | .error error => reject error

def FieldPath.resolve (registry : Registry) (options : QueryOptions) (model : Model)
    (field : Value) : Outcome FieldPath := do
  ofChecked (resolveName registry options model (strip (← (field.orElse (.str "")).text)))

end GridQuery
