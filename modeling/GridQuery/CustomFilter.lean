import GridQuery.Compose

/-!
Filters that a server declares under request parameters of its own.  A filter
compares a column in a fixed way or applies a callback; unlike a client's
filters it is looked up by its key.
-/

namespace GridQuery

structure CustomFilter where
  kind : String := "where"
  /-- The field it constrains; null or blank stands for the key. -/
  column : Value := .null
  callback : Option (Query → Value → Outcome Query) := none

namespace CustomFilter

/-- The filter that a mapping declares; its kind has two names there, the first of which wins. -/
def ofMapping (mapping : Members) (callback : Option (Query → Value → Outcome Query)) :
    Outcome CustomFilter := do
  let kind ← (((mapping.value "type").orElse (mapping.value "kind")).orElse (.str "where")).text
  .ok { kind, column := mapping.value "column", callback }

def kinds : List (String × MatchMode) :=
  [("where", .equals), ("whereIn", .isIn), ("whereBetween", .between), ("whereDate", .dateIs),
    ("whereLike", .contains)]

def isPair : Value → Bool
  | .list [_, _] | .tuple [_, _] => true
  | _ => false

/-- The condition of a declared filter, if the value constrains anything; a range without two
bounds does not. -/
def compile (context : Context) (model : Model) (key : String) (filter : CustomFilter)
    (value : Value) : Outcome (Option Condition) :=
  match kinds.lookup filter.kind with
  | none => reject (.filterKind filter.kind key)
  | some mode =>
      if mode = .between ∧ !isPair value then .ok none
      else do
        let path ← FieldPath.resolve context.registry context.options model
          (filter.column.orElse (.str key))
        Filter.compile path mode value

def applyOne (context : Context) (query : Query) (key : String) (filter : CustomFilter)
    (value : Value) : Outcome Query :=
  match filter.callback with
  | some callback => callback query value
  | none => do
      match ← context.options.contain (compile context query.model key filter value) with
      | .ok condition => .ok (query.restrictAll condition.toList)
      | .error _ => .ok query

def apply (context : Context) (query : Query) (request : Members)
    (filters : List (String × CustomFilter)) : Outcome Query :=
  filters.foldlM (fun query declared =>
    match request.value declared.1 with
    | .null => .ok query
    | value => applyOne context query declared.1 declared.2 value) query

end CustomFilter

end GridQuery
