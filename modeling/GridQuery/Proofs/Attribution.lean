import GridQuery.Proofs.Containment
import GridQuery.Proofs.DottedName
import GridQuery.Proofs.Strictness
import GridQuery.Sample.Schema

/-!
Which input an error is about.  Every error that a request gives rise to comes
from a filter, a search field or the order, and carries its name without the
blanks around it; only an error about a value carries the label of the column
that the name leads to, which for a dotted name is but the last segment.
-/

namespace GridQuery

/-- An error about a value. -/
def QueryError.isOfValue : QueryError → Bool
  | .value .. => true
  | _ => false

section Column

variable {Result Other : Type} {label : String}

/-- A computation that is refused for nothing but a value of a column. -/
def BlamesColumn (label : String) (outcome : Outcome Result) : Prop :=
  ∀ error, outcome = reject error → ∃ expected, error = .value label expected

namespace BlamesColumn

theorem ok (result : Result) : BlamesColumn label (.ok result) := by
  simp [BlamesColumn, reject]

theorem giveUp (fault : Fault) : BlamesColumn label (giveUp fault : Outcome Result) := by
  simp [BlamesColumn, reject, GridQuery.giveUp]

theorem refuse (expected : Expectation) :
    BlamesColumn label (Coercion.refuse label expected : Outcome Result) := by
  rintro error ⟨⟩
  exact ⟨expected, rfl⟩

theorem bind {first : Outcome Result} {second : Result → Outcome Other}
    (blames : BlamesColumn label first) (later : ∀ result, BlamesColumn label (second result)) :
    BlamesColumn label (first >>= second) := by
  intro error rejected
  rcases bind_eq_error_iff.mp rejected with here | ⟨result, -, there⟩
  · exact blames error here
  · exact later result error there

theorem map {outcome : Outcome Result} (form : Result → Other)
    (blames : BlamesColumn label outcome) : BlamesColumn label (form <$> outcome) := by
  rcases outcome with failure | result
  · rintro error ⟨⟩
    exact blames error rfl
  · exact ok (form result)

theorem mapM {compute : Result → Outcome Other} (items : List Result)
    (blames : ∀ item, BlamesColumn label (compute item)) :
    BlamesColumn label (items.mapM compute) := by
  induction items with
  | nil => exact ok []
  | cons item rest inductionHypothesis =>
      rw [List.mapM_cons]
      exact (blames item).bind fun result => inductionHypothesis.bind fun results => ok _

end BlamesColumn

end Column

namespace Coercion

variable {label : String} (value : Value)

theorem written_blamesColumn (text? : Option String) :
    BlamesColumn label (Value.written text?) := by
  cases text? with
  | none => exact .giveUp _
  | some text => exact .ok text

theorem textOrEmpty_blamesColumn : BlamesColumn label value.textOrEmpty := by
  unfold Value.textOrEmpty
  split
  · exact .ok _
  · exact written_blamesColumn _

theorem toBool_blamesColumn : BlamesColumn label (toBool label value) := by
  unfold toBool
  split
  · exact .ok _
  · apply (textOrEmpty_blamesColumn _).bind
    intro text
    split
    · exact .ok _
    · exact .refuse _

theorem readNumber_blamesColumn {Number : Type} (read? : String → Option Number) :
    BlamesColumn label (readNumber label read? value) := by
  apply (written_blamesColumn value.text?).bind
  intro text
  dsimp only
  split
  · exact .refuse _
  · split
    · exact .ok _
    · exact .refuse _

theorem toInteger_blamesColumn : BlamesColumn label (toInteger label value) := by
  unfold toInteger
  split
  · exact .ok _
  · exact .refuse _
  · exact .ok _
  · split
    · split
      · exact .ok _
      · exact .refuse _
    · exact .refuse _
  · exact (readNumber_blamesColumn value _).map _

theorem toReal_blamesColumn : BlamesColumn label (toReal label value) := by
  unfold toReal
  split
  · exact .ok _
  · exact .refuse _
  · dsimp only
    split
    · exact .ok _
    · exact .giveUp _
  · exact .ok _
  · exact (readNumber_blamesColumn value _).map _

theorem toNumeric_blamesColumn : BlamesColumn label (toNumeric label value) := by
  unfold toNumeric
  split
  · exact .ok _
  · exact .refuse _
  · exact .ok _
  · exact .ok _
  · exact (readNumber_blamesColumn value _).map _

theorem toUuid_blamesColumn : BlamesColumn label (toUuid label value) := by
  unfold toUuid
  split
  · exact .ok _
  · split
    · exact .ok _
    · exact .refuse _

theorem toDate_blamesColumn : BlamesColumn label (toDate label value) := by
  unfold toDate
  split
  · exact .ok _
  · exact .ok _
  · apply (written_blamesColumn _).bind
    intro text
    dsimp only
    split
    · exact .ok _
    · exact .refuse _

theorem toMoment_blamesColumn : BlamesColumn label (toMoment label value) := by
  unfold toMoment
  split
  · exact .ok _
  · apply (written_blamesColumn _).bind
    intro text
    split
    · exact .ok _
    · exact .refuse _

theorem toText_blamesColumn : BlamesColumn label (toText label value) := by
  unfold toText
  split
  · exact .refuse _
  · exact .refuse _
  · exact (written_blamesColumn _).map _

theorem coerce_blamesColumn (column : Column) :
    BlamesColumn column.label (coerce column value) := by
  unfold coerce
  split
  · exact toText_blamesColumn value
  · exact toInteger_blamesColumn value
  · exact toReal_blamesColumn value
  · exact toNumeric_blamesColumn value
  · exact (toBool_blamesColumn value).map _
  · exact (toUuid_blamesColumn value).map _
  · exact (toDate_blamesColumn value).map _
  · exact (toMoment_blamesColumn value).map _
  all_goals exact .ok value

end Coercion

namespace Filter

variable {field : Field} (value : Value)

theorem ordered_blamesColumn (comparison : Comparison) :
    BlamesColumn field.column.label (ordered field comparison value) := by
  unfold ordered
  split
  · exact .giveUp _
  · exact .giveUp _
  · exact .ok _

theorem dayAfter_blamesColumn (start : Moment) :
    BlamesColumn field.column.label (dayAfter start) := by
  unfold dayAfter
  split
  · exact .ok _
  · exact .giveUp _

theorem substring_blamesColumn (negated : Bool) (anchor : Anchor) :
    BlamesColumn field.column.label (substring field negated anchor value) := by
  unfold substring
  split
  · exact .refuse _
  · exact .refuse _
  · exact (Coercion.written_blamesColumn _).map _

theorem membership_blamesColumn (negated : Bool) :
    BlamesColumn field.column.label (membership field negated value) := by
  unfold membership
  split
  · exact .refuse _
  · apply BlamesColumn.bind
    · exact .mapM _ fun item => Coercion.coerce_blamesColumn item field.column
    · exact fun values => .ok _

theorem bound?_blamesColumn : BlamesColumn field.column.label (bound? field value) := by
  unfold bound?
  split
  · exact .ok _
  · split
    · exact .ok _
    · exact (Coercion.coerce_blamesColumn _ field.column).map _
  · exact (Coercion.coerce_blamesColumn _ field.column).map _

theorem closedRange_blamesColumn (low high : Option Value) :
    BlamesColumn field.column.label (closedRange field low high) := by
  unfold closedRange
  split
  · exact .ok _
  · exact (ordered_blamesColumn _ _).map _
  · exact (ordered_blamesColumn _ _).map _
  · exact .ok _

theorem range_blamesColumn (rawLow rawHigh : Value) :
    BlamesColumn field.column.label (range field rawLow rawHigh) := by
  apply (bound?_blamesColumn rawLow).bind
  intro low
  apply (bound?_blamesColumn rawHigh).bind
  intro high
  split
  · split
    · apply (dayAfter_blamesColumn _).bind
      intro stop
      split
      · exact (ordered_blamesColumn _ _).map _
      · exact .ok _
    · exact closedRange_blamesColumn _ _
  · exact closedRange_blamesColumn _ _

theorem rangeOf_blamesColumn : BlamesColumn field.column.label (rangeOf field value) := by
  unfold rangeOf
  split
  · exact range_blamesColumn _ _
  · exact range_blamesColumn _ _
  · exact .refuse _

theorem byDay_blamesColumn (relation : DayRelation) :
    BlamesColumn field.column.label (byDay field relation value) := by
  apply (Coercion.toDate_blamesColumn value).bind
  intro day
  split
  · apply (dayAfter_blamesColumn _).bind
    intro stop
    split <;> exact .ok _
  · exact .ok _
  · exact .refuse _

theorem scalar_blamesColumn : BlamesColumn field.column.label (scalar field value) := by
  unfold scalar
  split
  · exact .refuse _
  · exact .refuse _
  · exact Coercion.coerce_blamesColumn value field.column

theorem equal_blamesColumn (negated : Bool) :
    BlamesColumn field.column.label (equal field negated value) := by
  apply (scalar_blamesColumn value).bind
  intro coerced
  split
  · split
    · exact (dayAfter_blamesColumn _).bind fun stop => .ok _
    · exact .ok _
  · exact .ok _

theorem byOrder_blamesColumn (comparison : Comparison) :
    BlamesColumn field.column.label (byOrder field comparison value) :=
  (scalar_blamesColumn value).bind fun coerced => ordered_blamesColumn coerced comparison

theorem build_blamesColumn (mode : MatchMode) :
    BlamesColumn field.column.label (build field mode value) := by
  cases mode with
  | contains | notContains | startsWith | endsWith => exact (substring_blamesColumn value _ _).map _
  | dateIs | dateIsNot | dateBefore | dateAfter => exact (byDay_blamesColumn value _).map _
  | isIn | notIn => exact membership_blamesColumn value _
  | between => exact rangeOf_blamesColumn value
  | equals | notEquals => exact (equal_blamesColumn value _).map _
  | lt | lte | gt | gte => exact (byOrder_blamesColumn value _).map _

theorem compile_blamesColumn (path : FieldPath) (mode : MatchMode) :
    BlamesColumn path.field.column.label (compile path mode value) :=
  (build_blamesColumn value mode).bind fun _ => .ok _

end Filter

namespace FieldPath

/-- The part of a name behind its last point. -/
def lastSegment (name : String) : String :=
  (Text.split '.' name).getLast?.getD ""

variable {registry : Registry} {options : QueryOptions} {model : Model} {name : String}
  {path : FieldPath}

theorem lastSegment_of_plain (noPoint : '.' ∉ name.toList) : lastSegment name = name := by
  have whole : Text.split '.' name = [name] :=
    Text.split_eq_iff.mpr ⟨by simp, by simp, by simpa using noPoint⟩
  simp [lastSegment, whole]

theorem lastSegment_eq_iff : lastSegment name = name ↔ '.' ∉ name.toList := by
  refine ⟨fun same => ?_, lastSegment_of_plain⟩
  obtain ⟨notNil, -, plain⟩ := Text.split_eq_iff.mp (rfl : Text.split '.' name = _)
  rw [← same, lastSegment, List.getLast?_eq_some_getLast notNil]
  exact plain _ (List.getLast_mem notNil)

theorem Declares.named (declares : Declares registry options model name path) :
    path.name = name ∧ path.field.column.label = lastSegment name := by
  cases declares with
  | plain given allowed noPoint found =>
      exact ⟨rfl, (Model.field?_eq_some found).1.trans (lastSegment_of_plain noPoint).symm⟩
  | dotted allowed enabled someLink connected found spelled =>
      refine ⟨rfl, ?_⟩
      simp [lastSegment, spelled.split_eq]

end FieldPath

/-- An error is about the name of an input: it carries the name, or only its last segment if it is
about a value, which is the name itself exactly if the name has no point. -/
structure QueryError.Blames (error : QueryError) (name : String) : Prop where
  field?_eq : error.field? =
    some (if error.isOfValue then FieldPath.lastSegment name else name)
  isName : error.field? = some name ↔ (error.isOfValue = true → '.' ∉ name.toList)

theorem QueryError.blames_of_field? {error : QueryError} {name : String}
    (about : error.field? = some (if error.isOfValue then FieldPath.lastSegment name else name)) :
    error.Blames name := by
  refine ⟨about, ?_⟩
  rw [about]
  cases error.isOfValue with
  | true => simp [FieldPath.lastSegment_eq_iff]
  | false => simp

namespace Compose

/-- What a request asks for and what is compiled by itself: a filter, a field that is searched for a
term, or the order. -/
inductive Input where
  | filter (clause : FilterClause)
  | search (term field : String)
  | sort (clause : SortClause)

namespace Input

def name : Input → String
  | .filter clause => Text.strip clause.field
  | .search _ field => Text.strip field
  | .sort clause => Text.strip clause.field

def refusal? (context : Context) (model : Model) : Input → Option QueryError
  | .filter clause => GridQuery.refusal? (compileClause context model clause)
  | .search term field => GridQuery.refusal? (compileSearch context model (.str term) (.str field))
  | .sort clause => orderRefusal? context model clause

end Input

theorem refusal?_eq_some_iff {Result : Type} {outcome : Outcome Result} {error : QueryError} :
    GridQuery.refusal? outcome = some error ↔ outcome = reject error := by
  rcases outcome with (other | fault) | result <;> simp [GridQuery.refusal?, reject]

theorem orderRefusal?_eq_some_iff {context : Context} {model : Model} {clause : SortClause}
    {error : QueryError} :
    orderRefusal? context model clause = some error ↔
      SortTerm.ofClause context.registry context.options model clause = .error error := by
  rw [orderRefusal?, refusal?_eq_some_iff]
  cases SortTerm.ofClause context.registry context.options model clause <;>
    simp [ofChecked, reject]

section Inputs

variable {context : Context} {model : Model} {error : QueryError}

theorem resolve_named {name : String} {path : FieldPath}
    (resolved : FieldPath.resolve context.registry context.options model (.str name) = .ok path) :
    path.name = Text.strip name ∧
      path.field.column.label = FieldPath.lastSegment (Text.strip name) := by
  rw [FieldPath.resolve_str, ofChecked_eq_ok_iff, FieldPath.resolveName_eq_ok_iff] at resolved
  exact resolved.named

theorem resolve_refused {name : String}
    (refused : FieldPath.resolve context.registry context.options model (.str name) =
      reject error) : ∃ problem, error = .field problem (Text.strip name) := by
  rw [FieldPath.resolve_str, ofChecked_eq_reject_iff] at refused
  exact FieldPath.resolveName_eq_error refused

theorem clause_blames {clause : FilterClause}
    (refused : compileClause context model clause = reject error) :
    error.Blames (Text.strip clause.field) := by
  apply QueryError.blames_of_field?
  simp only [compileClause, Filter.compileRaw, reject, bind_eq_error_iff] at refused
  rcases refused with unresolved | ⟨path, resolved, unread | ⟨mode, -, rejected⟩⟩
  · obtain ⟨problem, rfl⟩ := resolve_refused unresolved
    rfl
  · have named := (resolve_named resolved).1
    obtain ⟨text, opened⟩ := MatchMode.read_str clause.operator (some path.name)
    rw [opened] at unread
    split at unread
    · simp at unread
    · obtain rfl : _ = error := by simpa [reject] using unread
      simp [QueryError.field?, QueryError.isOfValue, named]
  · have labelled := (resolve_named resolved).2
    obtain ⟨expected, rfl⟩ := Filter.compile_blamesColumn _ path mode error rejected
    simp [QueryError.field?, QueryError.isOfValue, labelled]

theorem search_blames {term field : String}
    (refused : compileSearch context model (.str term) (.str field) = reject error) :
    error.Blames (Text.strip field) := by
  rw [compileSearch_eq_compileClause] at refused
  have sameField : (searchClause term field).field = field := rfl
  rw [← sameField]
  exact clause_blames refused

theorem order_blames {clause : SortClause} (stripped : Text.strip clause.field = clause.field)
    (refused : orderRefusal? context model clause = some error) :
    error.Blames (Text.strip clause.field) := by
  apply QueryError.blames_of_field?
  have unsorted := orderRefusal?_eq_some_iff.mp refused
  rw [SortTerm.ofClause] at unsorted
  cases resolved : FieldPath.resolveName context.registry context.options model
      (Text.strip clause.field) with
  | error cause =>
      obtain ⟨problem, rfl⟩ := FieldPath.resolveName_eq_error resolved
      simp only [resolved, mapError_error, bind, Except.bind, Except.error.injEq] at unsorted
      rw [← unsorted]
      simp [QueryError.asSortError, QueryError.field?, QueryError.isOfValue, stripped]
  | ok path =>
      have named := (FieldPath.resolveName_eq_ok_iff.mp resolved).named.1
      simp only [resolved, mapError_ok, bind, Except.bind, SortKey.ofPath] at unsorted
      cases found : path.hops.find? (!·.singleValued) with
      | none => simp [found] at unsorted
      | some link =>
          obtain rfl : _ = error := by simpa [found] using unsorted
          simp [QueryError.field?, QueryError.isOfValue, named]

end Inputs

section Requests

def filterInputs (request : Members) : List Input :=
  match Clause.filters (request.value "filters") with
  | .ok clauses => clauses.map .filter
  | .error _ => []

/-- The fields that a request is searched in, if there is a term and they can be read. -/
def searchInputs (context : Context) (model : Model) (choice : Value) (request : Members) :
    List Input :=
  match Clause.searchTerm? request, Search.fields context.settings model choice request with
  | .ok (some term), .ok fields => fields.map (.search term)
  | _, _ => []

/-- All inputs of a request, in the order in which they are compiled. -/
def inputs (context : Context) (model : Model) (choice : Value) (request : Members) : List Input :=
  filterInputs request ++ searchInputs context model choice request ++
    (Clause.sort? request).toOption.join.toList.map .sort

variable {context : Context} {query : Query} {choice : Value} {request : Members}

theorem sort?_stripped {clause : SortClause} (asked : Clause.sort? request = .ok (some clause)) :
    Text.strip clause.field = clause.field := by
  unfold Clause.sort? at asked
  split at asked
  · split at asked
    · simp at asked
    · obtain ⟨descending, -, same⟩ := bind_eq_ok_iff.mp asked
      obtain rfl : _ = clause := by simpa using same
      exact Text.strip_strip _
  · simp at asked

theorem mem_inputs_sort {model : Model} {clause : SortClause}
    (member : .sort clause ∈ inputs context model choice request) :
    Clause.sort? request = .ok (some clause) := by
  have noFilter : Input.sort clause ∉ filterInputs request := by
    unfold filterInputs
    split <;> simp
  have noSearch : Input.sort clause ∉ searchInputs context model choice request := by
    unfold searchInputs
    split <;> simp
  have asked : (Clause.sort? request).toOption.join = some clause := by
    simpa [inputs, noFilter, noSearch] using member
  cases read : Clause.sort? request with
  | error failure => simp [read, Except.toOption] at asked
  | ok order =>
      rw [read] at asked
      exact congrArg Except.ok asked

theorem inputs_blamed {model : Model} {input : Input}
    (member : input ∈ inputs context model choice request) {error : QueryError}
    (refused : input.refusal? context model = some error) : error.Blames input.name := by
  cases input with
  | filter clause =>
      have rejected : compileClause context model clause = reject error :=
        refusal?_eq_some_iff.mp refused
      have blames := clause_blames rejected
      exact blames
  | search term field =>
      have rejected : compileSearch context model (.str term) (.str field) = reject error :=
        refusal?_eq_some_iff.mp refused
      have blames := search_blames rejected
      exact blames
  | sort clause =>
      have blames := order_blames (sort?_stripped (mem_inputs_sort member)) refused
      exact blames

/-- What a tolerant run skips are the errors of the inputs. -/
theorem refusals_eq {model : Model} {asked : Parts}
    (read : parts context model choice request = .ok asked) :
    (inputs context model choice request).filterMap (·.refusal? context model) =
      asked.refusals context model ++
        (sortRefusal? context model request).toList := by
  have order : ((Clause.sort? request).toOption.join.toList.map Input.sort).filterMap
      (·.refusal? context model) = (sortRefusal? context model request).toList := by
    unfold sortRefusal?
    cases (Clause.sort? request).toOption.join with
    | none => rfl
    | some clause => cases refused : orderRefusal? context model clause <;>
        simp [Input.refusal?, refused]
  simp only [parts, bind_eq_ok_iff] at read
  obtain ⟨clauses, readFilters, term?, wanted, read⟩ := read
  rw [inputs, List.filterMap_append, List.filterMap_append, order]
  congr 1
  unfold filterInputs searchInputs
  rw [readFilters, wanted]
  cases term? with
  | none =>
      obtain rfl : _ = asked := by simpa using read
      simp [Parts.refusals, List.filterMap_map, Input.refusal?]
  | some term =>
      simp only [bind_eq_ok_iff, Except.ok.injEq] at read
      obtain ⟨fields, readFields, rfl⟩ := read
      simp [Parts.refusals, List.filterMap_map, Input.refusal?, readFields]

/-- A computation of a strict run: what it returns is without errors, and what it is refused for is
the first error of some inputs, unless a payload could not be read. -/
structure StopsAtFirst {Result : Type} (unread : QueryError → Prop) (first? : Option QueryError)
    (outcome : Outcome Result) : Prop where
  returns : ∀ result, outcome = .ok result → first? = none
  refused : ∀ error, outcome = reject error → unread error ∨ first? = some error

namespace StopsAtFirst

variable {Result Final : Type} {unread : QueryError → Prop} {first? later? : Option QueryError}

theorem ok (result : Result) : StopsAtFirst unread none (.ok result) where
  returns _ _ := rfl
  refused _ rejected := by simp [reject] at rejected

theorem error {failure : Failure} (payload : ∀ error, failure = .rejected error → unread error) :
    StopsAtFirst unread first? (.error failure : Outcome Result) where
  returns _ returned := by simp at returned
  refused error rejected := .inl (payload error (by simpa [reject] using rejected))

theorem ofNeverRefused {outcome : Outcome Result} (never : ∀ error, outcome ≠ reject error) :
    StopsAtFirst unread none outcome where
  returns _ _ := rfl
  refused error rejected := absurd rejected (never error)

theorem bind {outcome : Outcome Result} {later : Result → Outcome Final}
    (stops : StopsAtFirst unread first? outcome)
    (onward : ∀ result, outcome = .ok result → StopsAtFirst unread later? (later result)) :
    StopsAtFirst unread (first?.or later?) (outcome >>= later) where
  returns final returned := by
    obtain ⟨result, here, there⟩ := bind_eq_ok_iff.mp returned
    rw [stops.returns result here, (onward result here).returns final there]
    rfl
  refused error rejected := by
    rcases bind_eq_error_iff.mp rejected with here | ⟨result, here, there⟩
    · exact (stops.refused error here).imp_right fun found => by rw [found]; rfl
    · rw [stops.returns result here]
      exact (onward result here).refused error there

theorem bind_ok {outcome : Outcome Result} (stops : StopsAtFirst unread first? outcome)
    (form : Result → Final) :
    StopsAtFirst unread first? (outcome >>= fun result => .ok (form result)) := by
  simpa using stops.bind fun result _ => ok (form result)

end StopsAtFirst

theorem sort?_stopsAtFirst {unread : QueryError → Prop} (request : Members) :
    StopsAtFirst unread none (Clause.sort? request) := by
  refine .ofNeverRefused fun error rejected => ?_
  simpa using (Clause.sort?_eq_error_iff.mp rejected).2

section Strict

variable (strict : context.options.strict = true) {unread : QueryError → Prop}

include strict

theorem contain_stopsAtFirst {Result : Type} (outcome : Outcome Result) :
    StopsAtFirst unread (GridQuery.refusal? outcome) (context.options.contain outcome) := by
  rcases outcome with (error | fault) | result
  · constructor <;> simp [QueryOptions.contain, strict, reject, GridQuery.refusal?]
  · constructor <;> simp [QueryOptions.contain, giveUp, reject]
  · exact .ok _

theorem each_stopsAtFirst {Item Result : Type} (compile : Item → Outcome Result)
    (items : List Item) :
    StopsAtFirst unread (items.findSome? fun item => GridQuery.refusal? (compile item))
      (each context.options compile items) := by
  induction items with
  | nil => exact .ok []
  | cons item rest inductionHypothesis =>
      have stops : StopsAtFirst unread _ (each context.options compile (item :: rest)) :=
        (contain_stopsAtFirst strict (compile item)).bind fun outcome _ =>
          inductionHypothesis.bind_ok (outcome :: ·)
      rw [List.findSome?_cons]
      cases refused : GridQuery.refusal? (compile item) <;> simpa [refused] using stops

theorem filters_stopsAtFirst {clauses : List FilterClause}
    (read : Clause.filters (request.value "filters") = .ok clauses) :
    StopsAtFirst unread ((filterInputs request).findSome? (·.refusal? context query.model))
      (filters context query clauses) := by
  have sameInputs : (filterInputs request).findSome? (·.refusal? context query.model) =
      clauses.findSome? fun clause =>
        GridQuery.refusal? (compileClause context query.model clause) := by
    simp only [filterInputs, read, List.findSome?_map, Function.comp_def, Input.refusal?]
  rw [sameInputs]
  exact (each_stopsAtFirst strict _ clauses).bind_ok _

theorem search_stopsAtFirst {term : Value} (given : term.isTruthy = true) (fields : List Value) :
    StopsAtFirst unread
      (fields.findSome? fun field =>
        GridQuery.refusal? (compileSearch context query.model term field))
      (search context query term fields) := by
  rw [search, if_neg (by simp [given])]
  exact (each_stopsAtFirst strict _ fields).bind_ok _

theorem requestedSearch_stopsAtFirst
    (payload : ∀ error, Search.fields context.settings query.model choice request = reject error →
      unread error) :
    StopsAtFirst unread
      ((searchInputs context query.model choice request).findSome? (·.refusal? context query.model))
      (requestedSearch context query choice request) := by
  unfold requestedSearch searchInputs
  rcases wanted : Clause.searchTerm? request with failure | _ | term
  · refine .error fun error rejected => ?_
    obtain ⟨-, impossible⟩ := Clause.searchTerm?_eq_error_iff.mp wanted
    simp [rejected] at impossible
  · exact .ok _
  · cases read : Search.fields context.settings query.model choice request with
    | error failure =>
        refine .error fun error rejected => payload error ?_
        rw [read, rejected]
        rfl
    | ok fields =>
        have stops : StopsAtFirst unread _
            (search context query (.str term) (fields.map .str)) :=
          search_stopsAtFirst strict (isTruthy_of_searchTerm? wanted) _
        rw [List.findSome?_map] at stops
        dsimp only
        rw [List.findSome?_map]
        exact stops

theorem sorting_stopsAtFirst (clause : Option SortClause) :
    StopsAtFirst unread ((clause.toList.map Input.sort).findSome? (·.refusal? context query.model))
      (sorting context query clause) := by
  have sameRefusal : (clause.toList.map Input.sort).findSome? (·.refusal? context query.model) =
      GridQuery.refusal? (order context query clause) := by
    cases clause with
    | none => rfl
    | some wanted =>
        simp only [order, Option.toList_some, List.map_cons, List.map_nil, Input.refusal?,
          orderRefusal?, List.findSome?_cons]
        cases SortTerm.ofClause context.registry context.options query.model wanted <;> rfl
  have stops : StopsAtFirst unread _ (sorting context query clause) :=
    (contain_stopsAtFirst strict (order context query clause)).bind fun outcome _ => by
      cases outcome with
      | ok ordered => exact .ok _
      | error error => exact .ok _
  rwa [Option.or_none, ← sameRefusal] at stops

theorem request_stopsAtFirst :
    StopsAtFirst (fun error => Clause.filters (request.value "filters") = reject error ∨
        Search.fields context.settings query.model choice request = reject error)
      ((inputs context query.model choice request).findSome? (·.refusal? context query.model))
      (Compose.request context query choice request) := by
  cases read : Clause.filters (request.value "filters") with
  | error failure =>
      rw [Compose.request, read]
      refine .error fun error rejected => .inl ?_
      rw [rejected]
      rfl
  | ok clauses =>
      rw [Compose.request, read, inputs, List.append_assoc, List.findSome?_append]
      apply (filters_stopsAtFirst strict read).bind
      rintro ⟨filtered, badFilters⟩ filtering
      have filteredModel : filtered.model = query.model := by
        obtain ⟨outcomes, -, rfl, -⟩ := filters_eq_ok_iff.mp filtering
        rfl
      rw [List.findSome?_append, ← filteredModel]
      apply (requestedSearch_stopsAtFirst strict fun error unread => .inr unread).bind
      rintro ⟨searched, badFields⟩ searching
      have searchedModel : searched.model = filtered.model := by
        obtain ⟨_, _, -, rfl, -⟩ := requestedSearch_eq_ok searching
        rfl
      rw [← searchedModel, ← Option.none_or (o := List.findSome? _ _)]
      apply (sort?_stopsAtFirst request).bind
      intro order asked
      rw [asked, ← Option.or_none (o := List.findSome? _ _)]
      apply (sorting_stopsAtFirst strict order).bind
      rintro ⟨ordered, badOrder⟩ -
      apply StopsAtFirst.bind_ok
      refine .ofNeverRefused fun error rejected => ?_
      simpa using (Page.infinite_of_ofRequest rejected).1

end Strict

end Requests

/-- Every error of an input is about the name of the input, which it carries unless it is about a
value; then it carries the last segment of the name.  A tolerant run skips the errors of its inputs,
in their order.  A strict run that is refused is refused for the first of them, or for a payload
that cannot be read and then with no field. -/
theorem errors_blame_inputs (context : Context) (query : Query) (choice : Value)
    (request : Members) :
    (∀ input ∈ inputs context query.model choice request, ∀ error,
      input.refusal? context query.model = some error → error.Blames input.name) ∧
    (context.options.strict = false → ∀ composed,
      Compose.request context query choice request = .ok composed →
      composed.skipped = (inputs context query.model choice request).filterMap
        (·.refusal? context query.model)) ∧
    (context.options.strict = true → ∀ error,
      Compose.request context query choice request = reject error →
      (error.field? = none ∧ (Clause.filters (request.value "filters") = reject error ∨
        Search.fields context.settings query.model choice request = reject error)) ∨
      (inputs context query.model choice request).findSome? (·.refusal? context query.model) =
        some error) := by
  refine ⟨fun input member error refused => inputs_blamed member refused, ?_, ?_⟩
  · intro tolerant composed returned
    obtain ⟨asked, read, skipped, -⟩ := request_tolerant tolerant returned
    rw [skipped, refusals_eq read]
  · intro strict error rejected
    rcases (request_stopsAtFirst strict).refused error rejected with (unread | unread) | first
    · exact .inl ⟨(Clause.isFormat_of_filters unread).field?_eq_none, .inl unread⟩
    · exact .inl ⟨(Search.isFormat_of_fields unread).field?_eq_none, .inr unread⟩
    · exact .inr first

/-- A strict run is refused for a value behind a relation, and so with the last segment of the name
only. -/
theorem errors_blame_inputs_posts :
    let context : Context := { registry := .ofSchema Sample.schema, options := { strict := true } }
    let query : Query := ⟨Sample.post, [], []⟩
    let asked : Members := [("filters", .object [(" author.company_id ",
      .object [("value", .str "abc"), ("matchMode", .str "equals")])])]
    let error : QueryError := .value "company_id" .number
    context.options.strict = true ∧ Compose.request context query .null asked = reject error ∧
      (inputs context query.model .null asked).findSome? (·.refusal? context query.model) =
        some error ∧
      error.Blames "author.company_id" := by
  intro context query asked error
  obtain ⟨blamed, -, strictly⟩ := errors_blame_inputs context query .null asked
  have names : (inputs context query.model .null asked).map Input.name = ["author.company_id"] := by
    decide +kernel
  have failed : refusal? (Compose.request context query .null asked) = some error := by
    decide +kernel
  have rejected := refusal?_eq_some_iff.mp failed
  have first := (strictly rfl error rejected).resolve_left fun unread => by
    simp [error, QueryError.field?] at unread
  obtain ⟨input, member, refused⟩ := List.exists_of_findSome?_eq_some first
  have named : input.name = "author.company_id" := by
    simpa [names] using List.mem_map_of_mem (f := Input.name) member
  exact ⟨rfl, rejected, first, named ▸ blamed input member error refused⟩

/-- A number is asked for behind a relation: the error of the run is about `company_id`, although
the filter was for `author.company_id`. -/
theorem errors_blame_company_id :
    let context : Context := { registry := .ofSchema Sample.schema }
    let query : Query := ⟨Sample.post, [], []⟩
    let asked : Members := [("filters", .object [("author.company_id",
      .object [("value", .str "abc"), ("matchMode", .str "equals")])])]
    (inputs context query.model .null asked).map Input.name = ["author.company_id"] ∧
      (Compose.request context query .null asked).map (·.skipped.map QueryError.field?) =
        .ok [some "company_id"] := by
  decide +kernel

end Compose

end GridQuery
