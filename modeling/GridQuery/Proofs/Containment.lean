import GridQuery.Proofs.Overrun
import GridQuery.Proofs.WireForms
import GridQuery.Sample.Schema

/-!
What a tolerant request survives.  A payload that cannot be decoded refuses it,
a bad item is skipped.  But not every bad item is refused by the stage that
meets it: a filter value can overrun, a page parameter can be infinite, a choice
of search fields can be of a kind that names nothing, and what is to be written
can have no text.  These escape.
-/

namespace GridQuery

def QueryError.IsFormat : QueryError → Prop
  | .notJson .. | .notRecords | .notNames => True
  | _ => False

theorem QueryError.IsFormat.field?_eq_none {error : QueryError} (format : error.IsFormat) :
    error.field? = none := by
  cases error with
  | notJson | notRecords | notNames => rfl
  | _ => exact False.elim format

namespace Clause

variable {raw : Value} {error : QueryError}

theorem isFormat_of_decode {parameter : String}
    (undecodable : decode parameter raw = .error error) : error.IsFormat := by
  obtain ⟨failure, -, rfl⟩ := mapError_eq_error_iff.mp undecodable
  trivial

theorem isFormat_of_filters (undecodable : filters raw = reject error) : error.IsFormat := by
  rcases filters_eq_reject_iff.mp undecodable with ⟨problem, -, rfl⟩ | ⟨decoded, -, -, rfl⟩
  · trivial
  · trivial

theorem isFormat_of_searchFields (undecodable : searchFields raw = .error error) :
    error.IsFormat := by
  rcases bind_eq_error_iff.mp undecodable with undecoded | ⟨decoded, -, refused⟩
  · exact isFormat_of_decode undecoded
  · unfold ofNames at refused
    split at refused
    · simp at refused
    · simp at refused
    · simp at refused
    · simp at refused
    · obtain rfl : QueryError.notNames = error := by simpa using refused
      trivial

theorem textOrEmpty_eq_error_iff {value : Value} {failure : Failure} :
    value.textOrEmpty = .error failure ↔ value.HoldsHuge ∧ failure = .fault .hugeText := by
  cases value with
  | null =>
      have written : ¬ Value.HoldsHuge .null := by rintro ⟨⟩
      simp [Value.textOrEmpty, written]
  | _ => exact Value.text_eq_error_iff.trans (and_congr_left fun _ => Value.text?_eq_none_iff)

theorem searchTerm?_eq_error_iff {request : Members} {failure : Failure} :
    searchTerm? request = .error failure ↔
      (request.value "globalFilter").HoldsHuge ∧ failure = .fault .hugeText := by
  rw [searchTerm?]
  generalize request.value "globalFilter" = value
  rw [← textOrEmpty_eq_error_iff]
  cases value with
  | null => simp [Value.textOrEmpty]
  | _ => simp [bind_eq_error_iff, Value.textOrEmpty]

def OrderOverlong (request : Members) : Prop :=
  (∃ field, request.value "sortField" = .str field ∧ Text.isBlankText field = false) ∧
    (request.value "sortOrder").HoldsHuge

theorem sort?_eq_error_iff {request : Members} {failure : Failure} :
    sort? request = .error failure ↔ OrderOverlong request ∧ failure = .fault .hugeText := by
  unfold sort? OrderOverlong
  cases request.value "sortField" with
  | str field =>
      cases blank : Text.isBlankText field with
      | true => simp [blank]
      | false => simp [blank, isDescending, bind_eq_error_iff, textOrEmpty_eq_error_iff]
  | _ => simp

end Clause

namespace Page

/-- A parameter that is no integer and whose text stands for an infinite number. -/
def ReadsInfinite : Value → Prop
  | .null | .bool _ | .int _ => False
  | value => ∃ text, value.text?.map Text.strip = some text ∧ Integer.ofText? text = none ∧
      ∃ negative, Double.ofText? text = some (.infinite negative)

theorem readInt?_eq_error_iff {value : Value} {failure : Failure} :
    readInt? value = .error failure ↔
      failure = .fault .infiniteInteger ∧ ReadsInfinite value := by
  unfold readInt? ReadsInfinite
  cases value with
  | null | bool | int => simp
  | _ =>
      dsimp only
      generalize Option.map Text.strip _ = text?
      cases text? with
      | none => simp
      | some text =>
          cases read : Integer.ofText? text with
          | some n => simp [read]
          | none =>
              rcases readReal : Double.ofText? text with _ | (_ | negative | _) <;>
                simp [read, readReal, giveUp, eq_comm]

/-- A parameter that stands for an integer. -/
def ReadsInteger (value : Value) : Prop :=
  ∃ n, readInt? value = .ok (some n)

/-- The parameters that decide on the page: the first row and the number of rows, and if these are
not two integers, the page by its number and size. -/
inductive Consults (request : Members) : String → Prop
  | row {name : String} (row : name ∈ ["first", "rows"]) : Consults request name
  | page {name : String} (page : name ∈ ["page", "per_page"])
      (noRows : ¬ (ReadsInteger (request.value "first") ∧ ReadsInteger (request.value "rows"))) :
      Consults request name

section Requests

variable {options : QueryOptions} {request : Members} {failure : Failure}

theorem infinite_of_ofRequest (failed : ofRequest options request = .error failure) :
    failure = .fault .infiniteInteger ∧
      ∃ name, Consults request name ∧ ReadsInfinite (request.value name) := by
  simp only [ofRequest, bind_eq_error_iff, readInt?_eq_error_iff] at failed
  rcases failed with ⟨rfl, infinite⟩ |
    ⟨first, readFirst, ⟨rfl, infinite⟩ | ⟨rows, readRows, failed⟩⟩
  · exact ⟨rfl, "first", .row (by simp), infinite⟩
  · exact ⟨rfl, "rows", .row (by simp), infinite⟩
  · split at failed
    · simp at failed
    · next noRows =>
        have missing :
            ¬ (ReadsInteger (request.value "first") ∧ ReadsInteger (request.value "rows")) := by
          rintro ⟨⟨n, readsFirst⟩, m, readsRows⟩
          obtain rfl : first = some n := by simpa [readFirst] using readsFirst
          obtain rfl : rows = some m := by simpa [readRows] using readsRows
          exact noRows n m rfl rfl
        simp only [bind_eq_error_iff, readInt?_eq_error_iff, reduceCtorEq, and_false, exists_false,
          or_false] at failed
        rcases failed with ⟨rfl, infinite⟩ | ⟨number, -, rfl, infinite⟩
        · exact ⟨rfl, "page", .page (by simp) missing, infinite⟩
        · exact ⟨rfl, "per_page", .page (by simp) missing, infinite⟩

theorem not_readsInfinite_of_ofRequest {page : Page} (paged : ofRequest options request = .ok page)
    {name : String} (consulted : Consults request name) : ¬ ReadsInfinite (request.value name) := by
  have refuted {read : Option Int} {parameter : String}
      (reads : readInt? (request.value parameter) = .ok read) :
      ¬ ReadsInfinite (request.value parameter) := by
    intro infinite
    have failed := readInt?_eq_error_iff.mpr ⟨rfl, infinite⟩
    simp [reads] at failed
  simp only [ofRequest, bind_eq_ok_iff] at paged
  obtain ⟨first, readFirst, rows, readRows, rest⟩ := paged
  cases consulted with
  | row row =>
      simp only [List.mem_cons, List.not_mem_nil, or_false] at row
      rcases row with rfl | rfl
      · exact refuted readFirst
      · exact refuted readRows
  | page page noRows =>
      -- The number and the size of a page are read only where the rows do not decide.
      split at rest
      · exact absurd ⟨⟨_, readFirst⟩, _, readRows⟩ noRows
      · simp only [bind_eq_ok_iff] at rest
        obtain ⟨number, readNumber, perPage, readPerPage, -⟩ := rest
        simp only [List.mem_cons, List.not_mem_nil, or_false] at page
        rcases page with rfl | rfl
        · exact refuted readNumber
        · exact refuted readPerPage

end Requests

end Page

namespace Search

/-- A choice that names columns: one name, or something that holds names. -/
def NamesColumns : Value → Prop
  | .str _ | .list _ | .tuple _ | .set _ | .object _ | .bytes _ => True
  | _ => False

/-- A choice with a name that has no text. -/
def NamesHuge : Value → Prop
  | .list items | .tuple items | .set items => ∃ item ∈ items, item.HoldsHuge
  | _ => False

/-- The choices that end the work, and the faults with which they do. -/
inductive Unusable (choice : Value) : Fault → Prop
  | noColumns (noColumns : ¬ NamesColumns choice) : Unusable choice .badArgument
  | hugeName (huge : NamesHuge choice) : Unusable choice .hugeText

theorem mapM_text_eq_error_iff {items : List Value} {failure : Failure} :
    items.mapM Value.text = .error failure ↔
      (∃ item ∈ items, item.HoldsHuge) ∧ failure = .fault .hugeText := by
  apply mapM_eq_error_iff
  intro item failure
  rw [Value.text_eq_error_iff, Value.text?_eq_none_iff]

theorem chosen_eq_error_iff {settings : Settings} {model : Model} {choice : Value}
    {failure : Failure} :
    chosen settings model choice = .error failure ↔
      ∃ fault, Unusable choice fault ∧ failure = .fault fault := by
  have opened : (∃ fault, Unusable choice fault ∧ failure = .fault fault) ↔
      ¬ NamesColumns choice ∧ failure = .fault .badArgument ∨
        NamesHuge choice ∧ failure = .fault .hugeText := by
    constructor
    · rintro ⟨_, noColumns | huge, rfl⟩
      · exact .inl ⟨noColumns, rfl⟩
      · exact .inr ⟨huge, rfl⟩
    · rintro (⟨noColumns, rfl⟩ | ⟨huge, rfl⟩)
      · exact ⟨_, .noColumns noColumns, rfl⟩
      · exact ⟨_, .hugeName huge, rfl⟩
  rw [opened]
  cases choice with
  | str name =>
      unfold chosen
      dsimp only
      split <;> simp [NamesColumns, NamesHuge]
  | list | tuple | set => simp [chosen, NamesColumns, NamesHuge, mapM_text_eq_error_iff]
  | _ => simp [chosen, NamesColumns, NamesHuge, giveUp, eq_comm]

theorem fields_eq_error_iff {settings : Settings} {model : Model} {choice : Value}
    {request : Members} {failure : Failure} :
    fields settings model choice request = .error failure ↔
      (choice.isNull = false ∧ ∃ fault, Unusable choice fault ∧ failure = .fault fault) ∨
        choice.isNull = true ∧ ∃ error,
          Clause.searchFields (request.value "globalFilterFields") = .error error ∧
            failure = .rejected error := by
  unfold fields
  cases choice.isNull with
  | false => simp [chosen_eq_error_iff]
  | true => simp [bind_eq_error_iff]

theorem isFormat_of_fields {settings : Settings} {model : Model} {choice : Value}
    {request : Members} {error : QueryError}
    (refused : fields settings model choice request = reject error) : error.IsFormat := by
  rcases fields_eq_error_iff.mp refused with ⟨-, fault, -, impossible⟩ |
    ⟨-, cause, undecodable, same⟩
  · simp at impossible
  · obtain rfl : error = cause := by simpa using same
    exact Clause.isFormat_of_searchFields undecodable

end Search

namespace Compose

/-- The payload of the filters, or of the search fields if they are needed, cannot be decoded. -/
inductive Malformed (choice : Value) (request : Members) : QueryError → Prop
  | filters {error : QueryError}
      (undecodable : Clause.filters (request.value "filters") = reject error) :
      Malformed choice request error
  | searchFields {error : QueryError} {term : String}
      (searched : Clause.searchTerm? request = .ok (some term))
      (unchosen : choice.isNull = true)
      (undecodable : Clause.searchFields (request.value "globalFilterFields") = .error error) :
      Malformed choice request error

/-- The items of a request that end the work, and the faults with which they do. -/
inductive Escapes (context : Context) (model : Model) (choice : Value) (request : Members) :
    Fault → Prop
  | filter {clauses : List FilterClause} {clause : FilterClause} {path : FieldPath}
      {mode : MatchMode} {fault : Fault}
      (read : Clause.filters (request.value "filters") = .ok clauses)
      (member : clause ∈ clauses)
      (resolved : FieldPath.resolve context.registry context.options model (.str clause.field) =
        .ok path)
      (modeRead : MatchMode.read (.str clause.operator) (some path.name) = .ok mode)
      (overruns : Filter.Overruns path.field mode clause.value fault) :
      Escapes context model choice request fault
  | operator (overlong : Clause.HasOverlong (request.value "filters")) :
      Escapes context model choice request .hugeText
  | searchTerm (huge : (request.value "globalFilter").HoldsHuge) :
      Escapes context model choice request .hugeText
  | choice {term : String} {fault : Fault}
      (searched : Clause.searchTerm? request = .ok (some term))
      (chosen : choice.isNull = false)
      (unusable : Search.Unusable choice fault) :
      Escapes context model choice request fault
  | order (overlong : Clause.OrderOverlong request) :
      Escapes context model choice request .hugeText
  | page {name : String}
      (consulted : Page.Consults request name)
      (infinite : Page.ReadsInfinite (request.value name)) :
      Escapes context model choice request .infiniteInteger

section Requests

variable {context : Context} {query : Query} {choice : Value} {request : Members}

theorem Malformed.isFormat {error : QueryError} (malformed : Malformed choice request error) :
    error.IsFormat := by
  cases malformed with
  | filters undecodable => exact Clause.isFormat_of_filters undecodable
  | searchFields searched unchosen undecodable => exact Clause.isFormat_of_searchFields undecodable

/-- A tolerant request fails only for a malformed payload or an item that escapes. -/
theorem cause_of_request (tolerant : context.options.strict = false) {failure : Failure}
    (failed : Compose.request context query choice request = .error failure) :
    (∃ error, Malformed choice request error ∧ failure = .rejected error) ∨
      ∃ fault, Escapes context query.model choice request fault ∧ failure = .fault fault := by
  rcases request_eq_error tolerant failed with undecodable |
    ⟨clauses, read, clause, member, fault, faulty, rfl⟩ | unsearched | ⟨term, searched, unnamed⟩ |
    unordered | unpaged
  · rcases failure with error | fault
    · exact .inl ⟨error, .filters undecodable, rfl⟩
    · obtain ⟨overlong, rfl⟩ := Clause.filters_eq_giveUp_iff.mp undecodable
      exact .inr ⟨_, .operator overlong, rfl⟩
  · obtain ⟨path, mode, resolved, modeRead, overruns⟩ := fault?_compileClause_eq_some_iff.mp faulty
    exact .inr ⟨fault, .filter read member resolved modeRead overruns, rfl⟩
  · obtain ⟨huge, rfl⟩ := Clause.searchTerm?_eq_error_iff.mp unsearched
    exact .inr ⟨_, .searchTerm huge, rfl⟩
  · rcases Search.fields_eq_error_iff.mp unnamed with ⟨chosen, fault, unusable, rfl⟩ |
      ⟨unchosen, error, undecodable, rfl⟩
    · exact .inr ⟨fault, .choice searched chosen unusable, rfl⟩
    · exact .inl ⟨error, .searchFields searched unchosen undecodable, rfl⟩
  · obtain ⟨overlong, rfl⟩ := Clause.sort?_eq_error_iff.mp unordered
    exact .inr ⟨_, .order overlong, rfl⟩
  · obtain ⟨rfl, name, consulted, infinite⟩ := Page.infinite_of_ofRequest unpaged
    exact .inr ⟨_, .page consulted infinite, rfl⟩

theorem contained_of_request (tolerant : context.options.strict = false) {composed : Composed}
    (returned : Compose.request context query choice request = .ok composed) :
    (∀ error, ¬ Malformed choice request error) ∧
      ∀ fault, ¬ Escapes context query.model choice request fault := by
  obtain ⟨⟨clauses, read, noFault⟩, ⟨term?, wanted, named⟩, ⟨order, ordered⟩, page, paged⟩ :=
    stages_of_request tolerant returned
  have fieldsRead {term : String} (searched : Clause.searchTerm? request = .ok (some term))
      (failure : Failure) :
      Search.fields context.settings query.model choice request ≠ .error failure := by
    obtain ⟨names, fields⟩ := named term (Except.ok.inj (wanted.symm.trans searched))
    simp [fields]
  constructor
  · intro error malformed
    cases malformed with
    | filters undecodable => simp [read, reject] at undecodable
    | searchFields searched unchosen undecodable =>
        exact fieldsRead searched (.rejected error)
          (Search.fields_eq_error_iff.mpr (.inr ⟨unchosen, error, undecodable, rfl⟩))
  · intro fault escapes
    cases escapes with
    | @filter others clause path mode _ readAgain member resolved modeRead overruns =>
        obtain rfl : clauses = others := by simpa [read] using readAgain
        have faulty : fault? (compileClause context query.model clause) = some fault :=
          fault?_compileClause_eq_some_iff.mpr ⟨path, mode, resolved, modeRead, overruns⟩
        simp [noFault clause member] at faulty
    | operator overlong =>
        have failed := Clause.filters_eq_giveUp_iff.mpr ⟨overlong, rfl⟩
        simp [read, giveUp] at failed
    | searchTerm huge =>
        have failed := Clause.searchTerm?_eq_error_iff.mpr ⟨huge, rfl⟩
        simp [wanted] at failed
    | choice searched chosen unusable =>
        exact fieldsRead searched (.fault fault)
          (Search.fields_eq_error_iff.mpr (.inl ⟨chosen, fault, unusable, rfl⟩))
    | order overlong =>
        have failed := Clause.sort?_eq_error_iff.mpr ⟨overlong, rfl⟩
        simp [ordered] at failed
    | page consulted infinite =>
        exact Page.not_readsInfinite_of_ofRequest paged consulted infinite

/-- A tolerant request returns exactly if its payload can be decoded and none of its items escapes;
it is refused only for its payload, and ends otherwise only with an item that escapes. -/
theorem request_returns_iff (tolerant : context.options.strict = false) :
    ((∃ composed, Compose.request context query choice request = .ok composed) ↔
        (∀ error, ¬ Malformed choice request error) ∧
          ∀ fault, ¬ Escapes context query.model choice request fault) ∧
      (∀ error, Compose.request context query choice request = .error (.rejected error) →
        Malformed choice request error ∧ error.IsFormat) ∧
      ∀ fault, Compose.request context query choice request = .error (.fault fault) →
        Escapes context query.model choice request fault := by
  refine ⟨⟨?_, ?_⟩, ?_, ?_⟩
  · rintro ⟨composed, returned⟩
    exact contained_of_request tolerant returned
  · rintro ⟨wellFormed, contained⟩
    cases outcome : Compose.request context query choice request with
    | ok composed => exact ⟨composed, rfl⟩
    | error failure =>
        rcases cause_of_request tolerant outcome with ⟨error, malformed, -⟩ | ⟨fault, escapes, -⟩
        · exact absurd malformed (wellFormed error)
        · exact absurd escapes (contained fault)
  · intro error refused
    rcases cause_of_request tolerant refused with ⟨cause, malformed, same⟩ | ⟨_, _, impossible⟩
    · obtain rfl : error = cause := by simpa using same
      exact ⟨malformed, malformed.isFormat⟩
    · simp at impossible
  · intro fault ended
    rcases cause_of_request tolerant ended with ⟨_, _, impossible⟩ | ⟨cause, escapes, same⟩
    · simp at impossible
    · obtain rfl : fault = cause := by simpa using same
      exact escapes

end Requests

/-- A request for posts with an unknown field, a date that is none, a mode that is none and a page
that is no number has nothing that escapes. -/
theorem request_returns_iff_posts :
    let context : Context := ⟨.ofSchema Sample.schema, {}, {}⟩
    let asked : Members := [
      ("filters", .object [
        ("nonsense", .object [("value", .int 1)]),
        ("created_at", .object [("value", .str "soon"), ("matchMode", .str "dateIs")]),
        ("views", .object [("value", .int 5), ("matchMode", .str "sounds")])]),
      ("page", .str "second")]
    ∀ fault, ¬ Escapes context Sample.post .null asked fault := by
  intro context asked
  have returns : (Compose.request context ⟨Sample.post, [], []⟩ .null asked).isOk = true := by
    decide +kernel
  cases returned : Compose.request context ⟨Sample.post, [], []⟩ .null asked with
  | error failure =>
      rw [returned] at returns
      exact absurd returns Bool.false_ne_true
  | ok composed => exact ((request_returns_iff rfl).1.mp ⟨composed, returned⟩).2

/-- A page, a day, a truth value and a number that escape, each of them alone in its request. -/
theorem request_escapes_posts :
    let context : Context := ⟨.ofSchema Sample.schema, {}, {}⟩
    let ask (asked : Members) := fault? (Compose.request context ⟨Sample.post, [], []⟩ .null asked)
    let filter (name mode : String) (value : Value) := ask [("filters", .object [
      (name, .object [("value", value), ("matchMode", .str mode)])])]
    ask [("page", .str "inf")] = some .infiniteInteger ∧
      filter "created_at" "equals" (.str "9999-12-31") = some .pastLastDay ∧
      filter "published" "lt" (.bool true) = some .unorderedConstant ∧
      filter "rating" "equals" (.int (tenTo 400)) = some .hugeDouble := by
  decide +kernel

end Compose

end GridQuery
