import GridQuery.Filter
import GridQuery.Page
import GridQuery.Search

/-!
Composing a query from a request: filters, then the search, then the order,
then the page.  A tolerant query goes on without a bad item and reports it; a
strict one refuses the first.
-/

namespace GridQuery

structure Context where
  registry : Registry
  options : QueryOptions := {}
  settings : Settings := {}

/-- A query with its page, and the errors of the items it goes without. -/
structure Composed where
  query : Query
  page : Page
  skipped : List QueryError
  deriving Repr

namespace Compose

def kept {α : Type} (outcomes : List (Except QueryError α)) : List α :=
  outcomes.filterMap Except.toOption

def skipped {α : Type} (outcomes : List (Except QueryError α)) : List QueryError :=
  outcomes.filterMap fun
    | .ok _ => none
    | .error error => some error

/-- Compile every item; a bad one leaves its error behind or ends the work. -/
def each {α β : Type} (options : QueryOptions) (compile : α → Outcome β) :
    List α → Outcome (List (Except QueryError β))
  | [] => .ok []
  | item :: rest => do
      let outcome ← options.contain (compile item)
      let outcomes ← each options compile rest
      .ok (outcome :: outcomes)

/-- The errors that were tolerated before the work ended. -/
def errorsBefore {α β : Type} (options : QueryOptions) (compile : α → Outcome β) :
    List α → List QueryError
  | [] => []
  | item :: rest =>
      match options.contain (compile item) with
      | .ok (.ok _) => errorsBefore options compile rest
      | .ok (.error error) => error :: errorsBefore options compile rest
      | .error _ => []

def compileClause (context : Context) (model : Model) (clause : FilterClause) :
    Outcome (Option Condition) := do
  let path ← FieldPath.resolve context.registry context.options model (.str clause.field)
  Filter.compileRaw path (.str clause.operator) clause.value

def filters (context : Context) (query : Query) (clauses : List FilterClause) :
    Outcome (Query × List QueryError) := do
  let outcomes ← each context.options (compileClause context query.model) clauses
  .ok (query.restrictAll ((kept outcomes).filterMap id), skipped outcomes)

def compileSearch (context : Context) (model : Model) (term field : Value) :
    Outcome (Option Condition) := do
  let path ← FieldPath.resolve context.registry context.options model field
  Filter.compile path .contains term

/-- Restrict a query to rows in which one of some fields contains a search term. -/
def search (context : Context) (query : Query) (term : Value) (fields : List Value) :
    Outcome (Query × List QueryError) :=
  if !term.isTruthy then .ok (query, [])
  else do
    let outcomes ← each context.options (compileSearch context query.model term) fields
    let conditions := (kept outcomes).filterMap id
    let found := if conditions.isEmpty then query else query.restrict (.someOf conditions)
    .ok (found, skipped outcomes)

def order (context : Context) (query : Query) (clause : Option SortClause) : Outcome Query :=
  match clause with
  | none => .ok query
  | some clause => do
      let term ← ofChecked (SortTerm.ofClause context.registry context.options query.model clause)
      .ok (query.orderBy term)

def sorting (context : Context) (query : Query) (clause : Option SortClause) :
    Outcome (Query × List QueryError) := do
  match ← context.options.contain (order context query clause) with
  | .ok ordered => .ok (ordered, [])
  | .error error => .ok (query, [error])

def requestedSearch (context : Context) (query : Query) (choice : Value) (request : Members) :
    Outcome (Query × List QueryError) := do
  match ← Clause.searchTerm? request with
  | none => .ok (query, [])
  | some term =>
      let fields ← Search.fields context.settings query.model choice request
      search context query (.str term) (fields.map Value.str)

/-- Compose a request onto a query; `choice` is the caller's choice of search fields. -/
def request (context : Context) (query : Query) (choice : Value) (request : Members) :
    Outcome Composed := do
  let clauses ← Clause.filters (request.value "filters")
  let (filtered, badFilters) ← filters context query clauses
  let (searched, badFields) ← requestedSearch context filtered choice request
  let order ← Clause.sort? request
  let (ordered, badOrder) ← sorting context searched order
  let page ← Page.ofRequest context.options request
  .ok ⟨ordered, page, badFilters ++ badFields ++ badOrder⟩

end Compose

end GridQuery
