import GridQuery.Boundary.Params
import GridQuery.Boundary.QueryString
import GridQuery.CustomFilter
import GridQuery.Store.Paginate
import GridQuery.Store.Present

/-!
Endpoints that answer requests for tables.  A request is refused if a number
or a parameter of the table is malformed, or if the query cannot be composed;
otherwise the answer is one page.
-/

namespace GridQuery

open Boundary

structure Endpoint where
  path : String
  model : Model
  /-- The server's choice of search fields; null leaves it to the request. -/
  searchFields : Value := .null
  filters : List (String × CustomFilter) := []
  serialize : Row → Value
  options : QueryOptions := {}

/-- An integer parameter of the query string that is none. -/
structure BadNumber where
  name : String
  input : String
  kind : IssueKind
  deriving DecidableEq, Repr

inductive Response where
  | page (envelope : Envelope)
  | refused (error : QueryError)
  | badNumbers (numbers : List BadNumber)
  | badParams (issues : List Issue)
  | notFound

namespace Response

def status : Response → Nat
  | page _ => 200
  | refused _ => 400
  | badNumbers _ | badParams _ => 422
  | notFound => 404

def badNumberValue (number : BadNumber) : Value :=
  .object [("type", .str number.kind.code), ("loc", .list [.str "query", .str number.name]),
    ("msg", .str number.kind.message), ("input", .str number.input)]

def detail (value : Value) : Value :=
  .object [("detail", value)]

def body : Response → Value
  | page envelope => envelope.value
  | refused error => detail (.str error.message)
  | badNumbers numbers => detail (.list (numbers.map badNumberValue))
  | badParams issues => detail (.list (issues.map Issue.value))
  | notFound => detail (.str "Not Found")

end Response

namespace Endpoint

def textNames : List String := ["filters", "sortField", "sortOrder", "globalFilter"]

def numberNames : List String := ["first", "rows", "page", "per_page"]

def lastValue? (parameters : QueryString.Parameters) (name : String) : Option String :=
  (QueryString.valuesOf parameters name).getLast?

def badNumbers (parameters : QueryString.Parameters) : List BadNumber :=
  numberNames.filterMap fun name =>
    match lastValue? parameters name with
    | none => none
    | some input =>
        match integerOfText input with
        | .ok _ => none
        | .refused issues => issues.head?.map fun issue => ⟨name, input, issue.kind⟩

def tableData (parameters : QueryString.Parameters) : Members :=
  let texts := textNames.filterMap fun name =>
    (lastValue? parameters name).map fun s => (name, Value.str s)
  let numbers := numberNames.filterMap fun name =>
    ((lastValue? parameters name).bind fun s => (integerOfText s).result?).map
      fun n => (name, Value.int n)
  let fields := QueryString.valuesOf parameters "globalFilterFields"
  let list := if fields.isEmpty then [] else
    [("globalFilterFields", QueryString.listParameter (fields.map .str))]
  texts ++ list ++ numbers

def compose (endpoint : Endpoint) (settings : Settings) (registry : Registry)
    (parameters : QueryString.Parameters) (params : TableParams) : Outcome Composed := do
  let context : Context := ⟨registry, endpoint.options, settings⟩
  let filtered ← CustomFilter.apply context { model := endpoint.model }
    (QueryString.grouped parameters) endpoint.filters
  Compose.request context filtered endpoint.searchFields params.toRequest

def answer (endpoint : Endpoint) (settings : Settings) (registry : Registry) (database : Database)
    (parameters : QueryString.Parameters) : Except Fault Response :=
  match badNumbers parameters with
  | [] =>
      match TableParams.check settings (tableData parameters) with
      | .refused issues => .ok (.badParams issues)
      | .ok params =>
          match compose endpoint settings registry parameters params with
          | .error (.rejected error) => .ok (.refused error)
          | .error (.fault fault) => .error fault
          | .ok composed =>
              match Store.paginate database composed.query composed.page endpoint.serialize with
              | .ok envelope => .ok (.page envelope)
              | .error (.rejected error) => .ok (.refused error)
              | .error (.fault fault) => .error fault
  | numbers => .ok (.badNumbers numbers)

/-- A path without the slashes at its end; the path of a lone slash is left as it is. -/
def canonicalPath (path : String) : String :=
  if path = "/" then path
  else String.ofList (path.toList.reverse.dropWhile (· = '/')).reverse

/-- The answer of the endpoint at a path.  A request with slashes after the path is sent on to the
path without them. -/
def route (endpoints : List Endpoint) (settings : Settings) (registry : Registry)
    (database : Database) (path : String) (parameters : QueryString.Parameters) :
    Except Fault Response :=
  match endpoints.find? (·.path == canonicalPath path) with
  | none => .ok .notFound
  | some endpoint => endpoint.answer settings registry database parameters

end Endpoint

end GridQuery
