import GridQuery.MatchMode
import GridQuery.Ordering
import GridQuery.Text.Fold

/-!
Reading the clauses of a request.  Filters are an object of fields or a list
of records, search fields a list of names; both may come as JSON text or in
bytes.  An entry that asks for nothing gives no clause.
-/

namespace GridQuery

open Text

structure FilterClause where
  field : String
  operator : String := MatchMode.equals.name
  value : Value
  deriving Repr

namespace Clause

/-- A parameter that may be JSON text: a blank text is null. -/
def decode (parameter : String) (raw : Value) : Except QueryError Value :=
  let decoded : Except Json.Failure Value := match raw with
    | .str s => if isBlankText s then .ok .null else Json.ofText s
    | .bytes content => if content.all isByteBlank then .ok .null else Json.ofBytes content
    | raw => .ok raw
  decoded.mapError (.notJson parameter)

/-- The slot of the search term among the filters; it is no field. -/
def searchSlot : String := "global"

/-- The clause of an entry, unless its field has no name or its value is blank. -/
def ofTriple? (field operator value : Value) : Outcome (Option FilterClause) :=
  match field with
  | .str name =>
      let name := strip name
      if name.isEmpty ∨ name = searchSlot ∨ value.isBlank then .ok none
      else do
        let operator ← (operator.orElse (.str MatchMode.equals.name)).text
        .ok (some ⟨name, operator, value⟩)
  | _ => .ok none

def ofMember? (member : String × Value) : Outcome (Option FilterClause) :=
  match member.2 with
  | .object data =>
      let data : Members := data
      ofTriple? (.str member.1) (data.value "matchMode") (data.value "value")
  | _ => .ok none

def ofRecord? (record : Value) : Outcome (Option FilterClause) :=
  match record with
  | .object data =>
      let data : Members := data
      ofTriple? (data.value "field") ((data.value "operator").orElse (data.value "matchMode"))
        (data.value "value")
  | _ => .ok none

def ofEntries {α : Type} (ofItem? : α → Outcome (Option FilterClause)) (items : List α) :
    Outcome (List FilterClause) := do
  let clauses ← items.mapM ofItem?
  .ok (clauses.filterMap id)

def ofDecoded : Value → Outcome (List FilterClause)
  | .null => .ok []
  | .object members => ofEntries ofMember? members
  | .list records => ofEntries ofRecord? records
  | _ => reject .notRecords

def filters (raw : Value) : Outcome (List FilterClause) := do
  ofDecoded (← ofChecked (decode "filters" raw))

def searchTerm? (request : Members) : Outcome (Option String) :=
  match request.value "globalFilter" with
  | .null => .ok none
  | value => do
      let text ← value.text
      .ok (if isBlankText text then none else some text)

def nameOf? : Value → Option String
  | .str s => if isBlankText s then none else some (strip s)
  | _ => none

def ofNames : Value → Except QueryError (List String)
  | .null => .ok []
  | .str s => .ok ([Value.str s].filterMap nameOf?)
  | .list items | .tuple items => .ok (items.filterMap nameOf?)
  | _ => .error .notNames

def searchFields (raw : Value) : Except QueryError (List String) := do
  ofNames (← decode "globalFilterFields" raw)

def descendingWords : List String := ["desc", "-1"]

/-- A requested direction; what is not descending is ascending. -/
def isDescending (raw : Value) : Outcome Bool := do
  let text ← raw.textOrEmpty
  .ok (descendingWords.contains (fold (strip text)))

def sort? (request : Members) : Outcome (Option SortClause) :=
  match request.value "sortField" with
  | .str field =>
      if isBlankText field then .ok none
      else do
        let descending ← isDescending (request.value "sortOrder")
        .ok (some ⟨strip field, descending⟩)
  | _ => .ok none

end Clause

end GridQuery
