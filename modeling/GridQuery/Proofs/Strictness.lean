import GridQuery.Proofs.Entry
import GridQuery.Proofs.Tolerance
import GridQuery.Sample.Schema

/-!
Strict and tolerant runs of one request.  A strict run returns exactly when a
tolerant one reports no error, and then both return the same; otherwise it is
refused for the first error that the tolerant run reports.  What is reported
are the errors of the items, each compiled alone, and the tolerant query is
that of the request without these items.
-/

namespace GridQuery

def refusal? {Result : Type} : Outcome Result → Option QueryError
  | .error (.rejected error) => some error
  | _ => none

namespace Members

def without (name : String) (members : Members) : Members :=
  members.filter (·.1 != name)

theorem value_without (name other : String) (members : Members) :
    (without name members).value other = if other = name then .null else members.value other := by
  unfold value value? without
  induction members with
  | nil => simp
  | cons member rest inductionHypothesis =>
      obtain ⟨known, old⟩ := member
      by_cases removed : known = name
      · subst removed
        by_cases same : other = known
        · simpa [same] using inductionHypothesis
        · have apart : (other == known) = false := by simpa using same
          simpa [same, List.lookup_cons, apart] using inductionHypothesis
      · by_cases same : other = known
        · subst same
          simp [removed]
        · have apart : (other == known) = false := by simpa using same
          simpa [removed, List.lookup_cons, apart] using inductionHypothesis

theorem value_put (name other : String) (given : Value) (members : Members) :
    (put name given members).value other = if other = name then given else members.value other := by
  by_cases same : other = name
  · subst same
    simp [value, value?_put]
  · rw [if_neg same]
    unfold value value?
    induction members with
    | nil =>
        have apart : (other == name) = false := by simpa using same
        simp [put, List.lookup_cons, apart]
    | cons member rest inductionHypothesis =>
        obtain ⟨known, old⟩ := member
        unfold put
        split
        · next found =>
            have apart : (other == known) = false := by simpa [found] using same
            simp [List.lookup_cons, apart]
        · rw [List.lookup_cons, List.lookup_cons]
          cases other == known with
          | true => rfl
          | false => exact inductionHypothesis

end Members

namespace Clause

/-- An entry whose clause is wanted, or that gives none. -/
def isWanted (wanted : FilterClause → Bool) : Outcome (Option FilterClause) → Bool
  | .ok (some clause) => wanted clause
  | _ => true

def keepEntries (wanted : FilterClause → Bool) : Value → Value
  | .object members => .object (members.filter fun member => isWanted wanted (ofMember? member))
  | .list records => .list (records.filter fun record => isWanted wanted (ofRecord? record))
  | other => other

theorem ofEntries_filter {Item : Type} {ofItem? : Item → Outcome (Option FilterClause)}
    {items : List Item} {clauses : List FilterClause} (read : ofEntries ofItem? items = .ok clauses)
    (wanted : FilterClause → Bool) :
    ofEntries ofItem? (items.filter fun item => isWanted wanted (ofItem? item)) =
      .ok (clauses.filter wanted) := by
  induction items generalizing clauses with
  | nil =>
      obtain rfl : [] = clauses := by simpa [ofEntries_nil] using read
      rfl
  | cons item rest inductionHypothesis =>
      simp only [ofEntries_cons, bind_eq_ok_iff, Except.ok.injEq] at read
      obtain ⟨clause, here, later, there, rfl⟩ := read
      have kept := inductionHypothesis there
      rw [List.filter_cons, here]
      cases clause with
      | none =>
          rw [if_pos (by rfl), ofEntries_cons, here, kept]
          rfl
      | some clause =>
          have same : isWanted wanted (.ok (some clause)) = wanted clause := rfl
          rw [same, Option.toList_some, List.singleton_append, List.filter_cons]
          split
          · rw [ofEntries_cons, here, kept]
            rfl
          · exact kept

theorem filters_keepEntries {decoded : Value} {clauses : List FilterClause}
    (read : ofDecoded decoded = .ok clauses) (wanted : FilterClause → Bool) :
    filters (keepEntries wanted decoded) = .ok (clauses.filter wanted) := by
  cases decoded with
  | null =>
      obtain rfl : [] = clauses := by simpa [ofDecoded] using read
      rfl
  | object members => exact ofEntries_filter read wanted
  | list records => exact ofEntries_filter read wanted
  | _ => simp [ofDecoded, reject] at read

theorem sort?_congr {request other : Members}
    (sameField : request.value "sortField" = other.value "sortField")
    (sameOrder : request.value "sortOrder" = other.value "sortOrder") :
    sort? request = sort? other := by
  unfold sort?
  rw [sameField, sameOrder]

end Clause

theorem Page.ofRequest_congr (options : QueryOptions) {request other : Members}
    (same : ∀ name ∈ ["first", "rows", "page", "per_page"], request.value name = other.value name) :
    ofRequest options request = ofRequest options other := by
  simp only [List.forall_mem_cons, List.not_mem_nil, IsEmpty.forall_iff, implies_true,
    and_true] at same
  obtain ⟨sameFirst, sameRows, samePage, samePerPage⟩ := same
  simp only [ofRequest, sameFirst, sameRows, samePage, samePerPage]

theorem Search.fields_names (settings : Settings) (model : Model) (names : List String)
    (request : Members) :
    fields settings model (.list (names.map .str)) request = .ok names := by
  have texts : (names.map Value.str).mapM Value.text = .ok names := by
    induction names with
    | nil => rfl
    | cons name rest inductionHypothesis =>
        simp only [List.map_cons, List.mapM_cons, Value.text_str, inductionHypothesis, bind,
          Except.bind]
        rfl
  simp only [fields, Value.isNull, chosen, texts]
  rfl

namespace Compose

section Items

variable {Item Result : Type} {options : QueryOptions} {compile : Item → Outcome Result}

/-- An item that is not refused when it is compiled alone. -/
def compiles (compile : Item → Outcome Result) (item : Item) : Bool :=
  (refusal? (compile item)).isNone

/-- What a tolerant run skips are the errors of the items, in their order; without the items that
fail it keeps the same results. -/
theorem each_tolerant_eq_ok {items : List Item} {outcomes : List (Except QueryError Result)}
    (tolerant : options.strict = false) (compiled : each options compile items = .ok outcomes) :
    skipped outcomes = items.filterMap (fun item => refusal? (compile item)) ∧
      ∃ others, each options compile (items.filter (compiles compile)) = .ok others ∧
        kept others = kept outcomes ∧ skipped others = [] := by
  induction items generalizing outcomes with
  | nil =>
      obtain rfl : [] = outcomes := by simpa [each] using compiled
      exact ⟨rfl, [], rfl, rfl, rfl⟩
  | cons item rest inductionHypothesis =>
      simp only [each, bind_eq_ok_iff, Except.ok.injEq] at compiled
      obtain ⟨outcome, contained, restOutcomes, restCompiled, rfl⟩ := compiled
      obtain ⟨restSkipped, others, othersCompiled, sameKept, noneSkipped⟩ :=
        inductionHypothesis restCompiled
      -- The item alone decides whether it is skipped or kept; the rest is as before.
      rcases outcomeOf : compile item with (error | fault) | result
      · obtain rfl : .error error = outcome := by
          simpa [outcomeOf, QueryOptions.contain, tolerant] using contained
        refine ⟨?_, others, ?_, ?_, noneSkipped⟩
        · rw [skipped_cons _ restOutcomes, restSkipped]
          simp [skipped, refusal?, outcomeOf]
        · simpa [compiles, refusal?, outcomeOf] using othersCompiled
        · rw [sameKept]
          rfl
      · simp [outcomeOf, QueryOptions.contain, giveUp] at contained
      · obtain rfl : .ok result = outcome := by
          simpa [outcomeOf, QueryOptions.contain] using contained
        refine ⟨?_, .ok result :: others, ?_, ?_, ?_⟩
        · rw [skipped_cons _ restOutcomes, restSkipped]
          simp [skipped, refusal?, outcomeOf]
        · have good : compiles compile item = true := by simp [compiles, refusal?, outcomeOf]
          rw [List.filter_cons_of_pos good]
          simp [each, contained, othersCompiled, bind, Except.bind]
        · simpa [kept, Except.toOption] using sameKept
        · rw [skipped_cons _ others, noneSkipped]
          rfl

end Items

section Repair

def Parts.refusals (context : Context) (model : Model) (asked : Parts) : List QueryError :=
  asked.clauses.filterMap (fun clause => refusal? (compileClause context model clause)) ++
    match asked.search with
    | none => []
    | some (term, fields) =>
        fields.filterMap fun field =>
          refusal? (compileSearch context model (.str term) (.str field))

def orderRefusal? (context : Context) (model : Model) (clause : SortClause) : Option QueryError :=
  refusal? (ofChecked (SortTerm.ofClause context.registry context.options model clause))

/-- The error of the order that a request asks for, compiled alone. -/
def sortRefusal? (context : Context) (model : Model) (request : Members) : Option QueryError :=
  (Clause.sort? request).toOption.join.bind (orderRefusal? context model)

/-- The search fields that do not fail, as a choice of the caller. -/
def Parts.soundFields (context : Context) (model : Model) (choice : Value) (asked : Parts) :
    Value :=
  match asked.search with
  | none => choice
  | some (term, fields) =>
      .list ((fields.filter fun field =>
        compiles (compileSearch context model (.str term)) (.str field)).map .str)

/-- The request without the filters and the order that fail. -/
def soundRequest (context : Context) (model : Model) (request : Members) : Members :=
  let filtered := match Clause.decode "filters" (request.value "filters") with
    | .error _ => request
    | .ok decoded => request.put "filters"
        (Clause.keepEntries (compiles (compileClause context model)) decoded)
  match sortRefusal? context model request with
  | none => filtered
  | some _ => filtered.without "sortField"

variable {context : Context} {query : Query} {choice : Value} {request : Members}

theorem soundRequest_value_of_ne (context : Context) (model : Model) (request : Members)
    (name : String) (notFilters : name ≠ "filters") (notSort : name ≠ "sortField") :
    (soundRequest context model request).value name = request.value name := by
  unfold soundRequest
  dsimp only
  split <;> split <;> simp [Members.value_put, Members.value_without, notFilters, notSort]

theorem filters_soundRequest {clauses : List FilterClause}
    (read : Clause.filters (request.value "filters") = .ok clauses) (model : Model) :
    Clause.filters ((soundRequest context model request).value "filters") =
      .ok (clauses.filter (compiles (compileClause context model))) := by
  simp only [Clause.filters, bind_eq_ok_iff, ofChecked_eq_ok_iff] at read
  obtain ⟨decoded, decodes, readDecoded⟩ := read
  have kept : (soundRequest context model request).value "filters" =
      Clause.keepEntries (compiles (compileClause context model)) decoded := by
    unfold soundRequest
    rw [decodes]
    dsimp only
    split <;> simp [Members.value_put, Members.value_without]
  rw [kept]
  exact Clause.filters_keepEntries readDecoded _

theorem sort?_soundRequest {order : Option SortClause} (asked : Clause.sort? request = .ok order)
    (model : Model) :
    Clause.sort? (soundRequest context model request) =
      .ok (order.filter fun clause => (orderRefusal? context model clause).isNone) := by
  have opened : sortRefusal? context model request = order.bind (orderRefusal? context model) := by
    simp [sortRefusal?, asked, Except.toOption]
  have sameOrder := soundRequest_value_of_ne context model request "sortOrder" (by decide)
    (by decide)
  cases refused : order.bind (orderRefusal? context model) with
  | none =>
      have sameField : (soundRequest context model request).value "sortField" =
          request.value "sortField" := by
        unfold soundRequest
        rw [opened, refused]
        dsimp only
        split <;> simp [Members.value_put]
      rw [Clause.sort?_congr sameField sameOrder, asked]
      cases order with
      | none => rfl
      | some clause =>
          have sound : orderRefusal? context model clause = none := by simpa using refused
          simp [Option.filter, sound]
  | some error =>
      obtain ⟨clause, rfl, refusal⟩ := Option.bind_eq_some_iff.mp refused
      have removed : (soundRequest context model request).value "sortField" = .null := by
        unfold soundRequest
        rw [opened, refused]
        exact (Members.value_without _ _ _).trans (if_pos rfl)
      have noSort : Clause.sort? (soundRequest context model request) = .ok none := by
        simp [Clause.sort?, removed]
      simp [noSort, Option.filter, refusal]

theorem filters_tolerant {clauses : List FilterClause} {filtered : Query} {errors : List QueryError}
    (tolerant : context.options.strict = false)
    (filtering : filters context query clauses = .ok (filtered, errors)) :
    errors = clauses.filterMap (fun clause => refusal? (compileClause context query.model clause)) ∧
      filters context query (clauses.filter (compiles (compileClause context query.model))) =
        .ok (filtered, []) := by
  obtain ⟨outcomes, compiled, rfl, rfl⟩ := filters_eq_ok_iff.mp filtering
  obtain ⟨skippedEq, others, othersCompiled, sameKept, noneSkipped⟩ :=
    each_tolerant_eq_ok tolerant compiled
  refine ⟨skippedEq, filters_eq_ok_iff.mpr ⟨others, othersCompiled, ?_, noneSkipped⟩⟩
  rw [sameKept]

theorem search_tolerant {term : Value} {fields : List Value} {searched : Query}
    {errors : List QueryError} (tolerant : context.options.strict = false)
    (given : term.isTruthy = true)
    (searching : search context query term fields = .ok (searched, errors)) :
    errors =
        fields.filterMap (fun field => refusal? (compileSearch context query.model term field)) ∧
      search context query term
          (fields.filter (compiles (compileSearch context query.model term))) =
        .ok (searched, []) := by
  simp only [search, given, Bool.not_true, Bool.false_eq_true, if_false, bind_eq_ok_iff,
    Except.ok.injEq, Prod.mk.injEq] at searching ⊢
  obtain ⟨outcomes, compiled, rfl, rfl⟩ := searching
  obtain ⟨skippedEq, others, othersCompiled, sameKept, noneSkipped⟩ :=
    each_tolerant_eq_ok tolerant compiled
  refine ⟨skippedEq, others, othersCompiled, ?_, noneSkipped⟩
  rw [sameKept]

theorem requestedSearch_tolerant {searched : Query} {errors : List QueryError}
    (tolerant : context.options.strict = false) {clauses : List FilterClause}
    (read : Clause.filters (request.value "filters") = .ok clauses)
    (searching : requestedSearch context query choice request = .ok (searched, errors)) :
    ∃ asked, parts context query.model choice request = .ok asked ∧ asked.clauses = clauses ∧
      asked.refusals context query.model =
        clauses.filterMap (fun clause => refusal? (compileClause context query.model clause)) ++
          errors ∧
      ∀ other : Members, other.value "globalFilter" = request.value "globalFilter" →
        requestedSearch context query (asked.soundFields context query.model choice) other =
          .ok (searched, []) := by
  unfold requestedSearch at searching
  obtain ⟨term?, wanted, searching⟩ := bind_eq_ok_iff.mp searching
  cases term? with
  | none =>
      obtain ⟨rfl, rfl⟩ : query = searched ∧ [] = errors := by simpa using searching
      refine ⟨⟨clauses, none⟩, ?_, rfl, by simp [Parts.refusals], ?_⟩
      · simp [parts, read, wanted, bind, Except.bind]
      · intro other sameTerm
        have unwanted : Clause.searchTerm? other = .ok none := by
          rw [← wanted, Clause.searchTerm?, Clause.searchTerm?, sameTerm]
        simp [requestedSearch, unwanted, bind, Except.bind]
  | some term =>
      simp only [bind_eq_ok_iff] at searching
      obtain ⟨fields, chosen, searching⟩ := searching
      obtain ⟨rfl, again⟩ := search_tolerant tolerant (isTruthy_of_searchTerm? wanted) searching
      refine ⟨⟨clauses, some (term, fields)⟩, ?_, rfl, ?_, ?_⟩
      · simp [parts, read, wanted, chosen, bind, Except.bind]
      · simp [Parts.refusals, List.filterMap_map]
      · intro other sameTerm
        have wantedToo : Clause.searchTerm? other = .ok (some term) := by
          rw [← wanted, Clause.searchTerm?, Clause.searchTerm?, sameTerm]
        simp only [List.filter_map, Function.comp_def] at again
        simp only [requestedSearch, wantedToo, Parts.soundFields, Search.fields_names, bind,
          Except.bind]
        exact again

theorem sorting_tolerant {clause : Option SortClause} {ordered : Query} {errors : List QueryError}
    (tolerant : context.options.strict = false)
    (composed : sorting context query clause = .ok (ordered, errors)) :
    errors = (clause.bind (orderRefusal? context query.model)).toList ∧
      sorting context query (clause.filter fun wanted =>
        (orderRefusal? context query.model wanted).isNone) = .ok (ordered, []) := by
  cases clause with
  | none =>
      obtain ⟨rfl, rfl⟩ : query = ordered ∧ [] = errors := by
        simpa [sorting, order, QueryOptions.contain, bind, Except.bind] using composed
      exact ⟨rfl, by simp [sorting, order, QueryOptions.contain, bind, Except.bind]⟩
  | some wanted =>
      cases read : SortTerm.ofClause context.registry context.options query.model wanted with
      | error error =>
          obtain ⟨rfl, rfl⟩ : query = ordered ∧ [error] = errors := by
            simpa [sorting, order, read, ofChecked, reject, QueryOptions.contain, tolerant, bind,
              Except.bind] using composed
          have refused : orderRefusal? context query.model wanted = some error := by
            simp [orderRefusal?, read, ofChecked, reject, refusal?]
          refine ⟨by simp [refused], ?_⟩
          simp [Option.filter, refused, sorting, order, QueryOptions.contain, bind, Except.bind]
      | ok term =>
          obtain ⟨rfl, rfl⟩ : query.orderBy term = ordered ∧ [] = errors := by
            simpa [sorting, order, read, ofChecked, QueryOptions.contain, bind, Except.bind]
              using composed
          have sound : orderRefusal? context query.model wanted = none := by
            simp [orderRefusal?, read, ofChecked, refusal?]
          refine ⟨by simp [sound], ?_⟩
          simp [Option.filter, sound, sorting, order, read, ofChecked, QueryOptions.contain, bind,
            Except.bind]

/-- A tolerant run reports the errors of its items and composes what is asked for without them. -/
theorem request_tolerant {composed : Composed} (tolerant : context.options.strict = false)
    (returned : Compose.request context query choice request = .ok composed) :
    ∃ asked, parts context query.model choice request = .ok asked ∧
      composed.skipped = asked.refusals context query.model ++
        (sortRefusal? context query.model request).toList ∧
      Compose.request context query (asked.soundFields context query.model choice)
        (soundRequest context query.model request) = .ok { composed with skipped := [] } := by
  simp only [Compose.request, bind_eq_ok_iff] at returned
  obtain ⟨clauses, read, ⟨filtered, badFilters⟩, filtering, ⟨searched, badFields⟩, searching,
    order, ordering, ⟨ordered, badOrder⟩, sorting, page, paged, result⟩ := returned
  obtain rfl : _ = composed := by simpa using result
  obtain ⟨filtersRefused, filteringAgain⟩ := filters_tolerant tolerant filtering
  -- Filters and a search leave the model as it is, so all items are compiled for the same one.
  have filteredModel : filtered.model = query.model := by
    obtain ⟨outcomes, -, rfl, -⟩ := filters_eq_ok_iff.mp filtering
    rfl
  have searchedModel : searched.model = query.model := by
    obtain ⟨_, _, -, rfl, -⟩ := requestedSearch_eq_ok searching
    exact filteredModel
  obtain ⟨asked, partsRead, sameClauses, refused, searchingAgain⟩ :=
    requestedSearch_tolerant tolerant read searching
  obtain ⟨orderRefused, sortingAgain⟩ := sorting_tolerant tolerant sorting
  rw [filteredModel] at partsRead refused searchingAgain
  rw [searchedModel] at orderRefused sortingAgain
  refine ⟨asked, partsRead, ?_, ?_⟩
  · have refusal : sortRefusal? context query.model request =
        order.bind (orderRefusal? context query.model) := by
      simp [sortRefusal?, ordering, Except.toOption]
    dsimp only
    rw [refused, orderRefused, filtersRefused, refusal, List.append_assoc]
  · have pagedAgain : Page.ofRequest context.options (soundRequest context query.model request) =
        .ok page := by
      rw [← paged]
      apply Page.ofRequest_congr
      simp only [List.forall_mem_cons, List.not_mem_nil, IsEmpty.forall_iff, implies_true, and_true]
      refine ⟨?_, ?_, ?_, ?_⟩ <;> apply soundRequest_value_of_ne <;> decide
    have sameTerm := soundRequest_value_of_ne context query.model request "globalFilter"
      (by decide) (by decide)
    simp only [Compose.request, filters_soundRequest read, sort?_soundRequest ordering,
      filteringAgain, searchingAgain _ sameTerm, sortingAgain, pagedAgain, bind, Except.bind,
      List.append_nil]

end Repair

/-- Strict and tolerant runs agree: a tolerant run without errors is the strict run, otherwise the
strict run is refused for the first error; the errors are those of the items compiled alone, and the
tolerant query is the one composed without them. -/
theorem request_strict_agrees (context : Context) (query : Query) (choice : Value)
    (request : Members) :
    (∀ composed, Compose.request (context.withStrict false) query choice request = .ok composed →
      (composed.skipped = [] →
        Compose.request (context.withStrict true) query choice request = .ok composed) ∧
      (∀ error rest, composed.skipped = error :: rest →
        Compose.request (context.withStrict true) query choice request = reject error) ∧
      ∃ asked, parts context query.model choice request = .ok asked ∧
        composed.skipped = asked.refusals context query.model ++
          (sortRefusal? context query.model request).toList ∧
        Compose.request (context.withStrict false) query
            (asked.soundFields context query.model choice)
            (soundRequest context query.model request) =
          .ok { composed with skipped := [] }) ∧
    ∀ composed, Compose.request (context.withStrict true) query choice request = .ok composed →
      composed.skipped = [] ∧
        Compose.request (context.withStrict false) query choice request = .ok composed := by
  have tolerates := request_tolerates context query choice request
  constructor
  · intro composed returned
    refine ⟨tolerates.strict_eq_ok_of_clean returned, ?_, request_tolerant rfl returned⟩
    intro error rest reported
    exact tolerates.strict_eq_reject returned reported
  · intro composed returned
    exact tolerates.tolerant_eq_ok returned

/-- Of three filters, two search fields and an order, four fail; the strict run is refused for the
first of them. -/
theorem request_strict_agrees_posts :
    let context : Context := ⟨.ofSchema Sample.schema, {}, {}⟩
    let query : Query := ⟨Sample.post, [], []⟩
    let asked : Members := [
      ("filters", .object [
        ("title", .object [("value", .str "o"), ("matchMode", .str "contains")]),
        ("nonsense", .object [("value", .int 1)]),
        ("views", .object [("value", .int 5), ("matchMode", .str "sounds")])]),
      ("globalFilter", .str "o"),
      ("globalFilterFields", .list [.str "author.name", .str "nothing"]),
      ("sortField", .str "comments.body")]
    ∃ composed,
      Compose.request (context.withStrict false) query .null asked = .ok composed ∧
      composed.skipped = [.field (.unknown "Post") "nonsense", .mode "sounds" (some "views"),
        .field (.unknown "Post") "nothing", .sort (.manyValued "comments") "comments.body"] ∧
      Compose.request (context.withStrict true) query .null asked =
        reject (.field (.unknown "Post") "nonsense") := by
  intro context query asked
  have skips : (Compose.request (context.withStrict false) query .null asked).map (·.skipped) =
      .ok [.field (.unknown "Post") "nonsense", .mode "sounds" (some "views"),
        .field (.unknown "Post") "nothing", .sort (.manyValued "comments") "comments.body"] := by
    decide +kernel
  cases returned : Compose.request (context.withStrict false) query .null asked with
  | error failure => simp [returned, Except.map] at skips
  | ok composed =>
      simp only [returned, Except.map, Except.ok.injEq] at skips
      refine ⟨composed, rfl, skips, ?_⟩
      exact ((request_strict_agrees context query .null asked).1 composed returned).2.1 _ _ skips

end Compose

end GridQuery
