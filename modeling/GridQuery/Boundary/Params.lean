import GridQuery.Boundary.Scalar
import GridQuery.Clause
import GridQuery.Options
import GridQuery.Page

/-!
Checking the input of an installation and of a request: settings, pages,
clauses, and the parameters of a table in lazy mode.
-/

namespace GridQuery

open Boundary

namespace Boundary

/-- The first of some names under which something is given, and what it is. -/
def given? (data : Members) : List String → Option (String × Value)
  | [] => none
  | name :: others =>
      match data.value? name with
      | some value => some (name, value)
      | none => given? data others

def fieldOr {α : Type} (data : Members) (names : List String) (default : α)
    (check : Value → Checked α) : Checked α :=
  match given? data names with
  | none => .ok default
  | some (name, value) => Checked.within (.name name) (check value)

def required {α : Type} (data : Members) (name : String) (check : Value → Checked α) : Checked α :=
  match data.value? name with
  | none => Checked.within (.name name) (.issue .missing)
  | some value => Checked.within (.name name) (check value)

def direction : Value → Checked Bool
  | .str "asc" => .ok false
  | .str "desc" => .ok true
  | _ => .issue .notDirection

end Boundary

def Settings.check (values : Members) : Checked Settings :=
  let default : Settings := {}
  ((((((((Checked.ok Settings.mk :
      Checked (Bool → Bool → Int → Int → Int → Int → String → Settings)).also
    (fieldOr values ["PRIMENG_STRICT_MODE"] default.strict boolean)).also
    (fieldOr values ["PRIMENG_RELATIONS_ENABLED"] default.relationsEnabled boolean)).also
    (fieldOr values ["PRIMENG_DEFAULT_PER_PAGE"] default.defaultPerPage integer)).also
    (fieldOr values ["PRIMENG_MAX_PER_PAGE"] default.maxPerPage integer)).also
    (fieldOr values ["PRIMENG_MAX_ROWS"] default.maxRows integer)).also
    (fieldOr values ["PRIMENG_MAX_GLOBAL_FILTER_LENGTH"] default.maxTermLength integer)).also
    (fieldOr values ["PRIMENG_EXCLUDED_SEARCH_COLUMNS"] default.excludedColumns text))

/-- Check a page; its numbers are not clamped. -/
def Page.check (data : Members) : Checked Page :=
  ((Checked.ok Page.mk : Checked (Int → Int → Page)).also (fieldOr data ["page"] 1 integer)).also
    (fieldOr data ["per_page"] 15 integer)

def FilterClause.check (data : Members) : Checked FilterClause :=
  (((Checked.ok FilterClause.mk : Checked (String → String → Value → FilterClause)).also
    (required data "field" text)).also
    (fieldOr data ["operator"] MatchMode.equals.name text)).also
    (required data "value" Checked.ok)

def SortClause.check (data : Members) : Checked SortClause :=
  ((Checked.ok SortClause.mk : Checked (String → Bool → SortClause)).also
    (required data "field" text)).also (fieldOr data ["dir"] false direction)

structure TableParams where
  filters : Option Value
  sortField : Option String
  sortOrder : Option Value
  searchTerm : Option String
  searchFields : Option Value
  first : Option Int
  rows : Option Int
  page : Option Int
  perPage : Option Int
  deriving Repr

namespace TableParams

/-- A text that is JSON for null or for a collection of a kind. -/
def jsonText (isCollection : Value → Bool) (isJson isRight : ContentRule) (s : String) :
    Checked Value :=
  match Json.ofText s with
  | .error _ => .issue (.content isJson)
  | .ok decoded =>
      if decoded.isNull || isCollection decoded then .ok (.str s) else .issue (.content isRight)

/-- Objects and lists. -/
def isCollection : Value → Bool
  | .object _ | .list _ => true
  | _ => false

def isList : Value → Bool
  | .list _ => true
  | _ => false

def checkFilters (value : Value) : Checked Value :=
  match value with
  | .object _ | .list _ => .ok value
  | .tuple items | .set items => .ok (.list items)
  | value =>
      match text value with
      | .ok s => jsonText isCollection .filtersAreJson .filtersAreCollection s
      | .refused issues =>
          .refused (issues.map (Issue.under (.name "str")) ++
            [⟨[.name "dict[any,any]"], .notObject⟩, ⟨[.name "list[any]"], .notList⟩])

def checkTexts (value : Value) : Checked (List String) :=
  match value with
  | .list items | .tuple items | .set items => Checked.items text 0 items
  | _ => .issue .notList

def checkSearchFields (value : Value) : Checked Value :=
  match text value with
  | .ok s => jsonText isList .fieldsAreJson .fieldsAreList s
  | .refused issues =>
      match Checked.within (.name "list[str]") (checkTexts value) with
      | .ok names => .ok (.list (names.map .str))
      | .refused others => .refused (issues.map (Issue.under (.name "str")) ++ others)

def orderWords : List String := ["asc", "desc", "1", "-1"]

def textOrInteger (value : Value) : Checked Value :=
  match value with
  | .str s => .ok (.str s)
  | .int n => .ok (.int n)
  | value =>
      match text value, integer value with
      | .ok s, _ => .ok (.str s)
      | .refused _, .ok n => .ok (.int n)
      | .refused first, .refused second =>
          .refused (first.map (Issue.under (.name "str")) ++ second.map (Issue.under (.name "int")))

/-- A sort order, in any case and with blanks around it. -/
def checkSortOrder (value : Value) : Checked Value := do
  let order ← textOrInteger value
  match order.text? with
  | none => .issue (.content .orderIsWritten)
  | some text =>
      if orderWords.contains (Text.fold (Text.strip text)) then .ok order
      else .issue (.content .orderIsKnown)

/-- Check the parameters of a table; each goes by its name in requests or by its plain name. -/
def check (settings : Settings) (data : Members) : Checked TableParams :=
  (((((((((Checked.ok TableParams.mk : Checked (Option Value → Option String → Option Value →
      Option String → Option Value → Option Int → Option Int → Option Int → Option Int →
      TableParams)).also
    (fieldOr data ["filters"] none (optional checkFilters))).also
    (fieldOr data ["sortField", "sort_field"] none (optional text))).also
    (fieldOr data ["sortOrder", "sort_order"] none (optional checkSortOrder))).also
    (fieldOr data ["globalFilter", "global_filter"] none
      (optional (textWithin settings.maxTermLength)))).also
    (fieldOr data ["globalFilterFields", "global_filter_fields"] none
      (optional checkSearchFields))).also
    (fieldOr data ["first"] none (optional (integerWithin 0 none)))).also
    (fieldOr data ["rows"] none (optional (integerWithin 1 (some settings.maxRows))))).also
    (fieldOr data ["page"] none (optional (integerWithin 1 none)))).also
    (fieldOr data ["per_page"] none (optional (integerWithin 1 (some settings.maxPerPage))))

def toRequest (params : TableParams) : Members :=
  let entry (name : String) (value : Option Value) : Members :=
    value.toList.map fun value => (name, value)
  entry "filters" params.filters ++ entry "sortField" (params.sortField.map .str) ++
    entry "sortOrder" params.sortOrder ++ entry "globalFilter" (params.searchTerm.map .str) ++
    entry "globalFilterFields" params.searchFields ++ entry "first" (params.first.map .int) ++
    entry "rows" (params.rows.map .int) ++ entry "page" (params.page.map .int) ++
    entry "per_page" (params.perPage.map .int)

end TableParams

end GridQuery
