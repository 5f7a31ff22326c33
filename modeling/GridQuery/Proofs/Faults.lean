import GridQuery.Proofs.Composition
import GridQuery.Proofs.Resolution

/-!
What ends a tolerant run.  Errors of items are set aside, so a tolerant run of
some items fails exactly with the first fault among them, and otherwise keeps
the results of all items that have one.  Looking for a text and ordering have
no faults: a request fails for its payload, for the fault of a clause, for a
search term, search fields or an order that cannot be read, or for its page.
-/

namespace GridQuery

def fault? {Result : Type} : Outcome Result → Option Fault
  | .error (.fault fault) => some fault
  | _ => none

section Sequences

variable {First Second : Type} {fault : Fault}

@[simp] theorem fault?_ok (result : First) : fault? (.ok result) = none := rfl

@[simp] theorem fault?_reject (error : QueryError) :
    fault? (reject error : Outcome First) = none := rfl

@[simp] theorem fault?_giveUp (fault : Fault) :
    fault? (giveUp fault : Outcome First) = some fault := rfl

@[simp] theorem fault?_refuse (column : String) (expected : Expectation) :
    fault? (Coercion.refuse column expected : Outcome First) = none := rfl

@[simp] theorem fault?_ofChecked (checked : Except QueryError First) :
    fault? (ofChecked checked) = none := by
  cases checked <;> rfl

@[simp] theorem fault?_map (form : First → Second) (outcome : Outcome First) :
    fault? (form <$> outcome) = fault? outcome := by
  rcases outcome with (error | fault) | result <;> rfl

theorem fault?_bind_eq_some_iff {first : Outcome First} {second : First → Outcome Second} :
    fault? (first >>= second) = some fault ↔
      fault? first = some fault ∨
        ∃ result, first = .ok result ∧ fault? (second result) = some fault := by
  rcases first with (error | fault) | result <;> simp [fault?, bind, Except.bind]

theorem fault?_bind_of_sound (first : Outcome First) {second : First → Outcome Second}
    (sound : ∀ result, fault? (second result) = none) :
    fault? (first >>= second) = fault? first := by
  rcases first with (error | fault) | result
  · rfl
  · rfl
  · exact sound result

theorem fault?_bind_ok (first : Outcome First) (form : First → Second) :
    fault? (first >>= fun result => .ok (form result)) = fault? first :=
  fault?_bind_of_sound first fun _ => rfl

@[simp] theorem fault?_written_eq_some_iff {text? : Option String} :
    fault? (Value.written text?) = some fault ↔ text? = none ∧ fault = .hugeText := by
  cases text? <;> simp [Value.written, eq_comm]

theorem fault?_mapM_eq_some_iff {compute : First → Outcome Second} {items : List First} :
    fault? (items.mapM compute) = some fault ↔
      ∃ before item after, items = before ++ item :: after ∧
        (∀ earlier ∈ before, ∃ result, compute earlier = .ok result) ∧
        fault? (compute item) = some fault := by
  induction items with
  | nil => simp [pure, Except.pure, fault?]
  | cons item rest inductionHypothesis =>
      rw [List.mapM_cons, fault?_bind_eq_some_iff]
      simp only [fault?_bind_eq_some_iff, inductionHypothesis]
      constructor
      · rintro (here | ⟨result, computed, ⟨before, later, after, rfl, earlierOk, found⟩ |
          ⟨_, _, impossible⟩⟩)
        · exact ⟨[], item, rest, rfl, by simp, here⟩
        · refine ⟨item :: before, later, after, rfl, ?_, found⟩
          exact List.forall_mem_cons.mpr ⟨⟨result, computed⟩, earlierOk⟩
        · simp [pure, Except.pure] at impossible
      · rintro ⟨before, later, after, same, earlierOk, found⟩
        cases before with
        | nil =>
            obtain ⟨rfl, rfl⟩ : item = later ∧ rest = after := by simpa using same
            exact .inl found
        | cons first before =>
            obtain ⟨rfl, rfl⟩ : item = first ∧ rest = before ++ later :: after := by
              simpa using same
            obtain ⟨⟨result, computed⟩, restOk⟩ := List.forall_mem_cons.mp earlierOk
            exact .inr ⟨result, computed, .inl ⟨before, later, after, rfl, restOk, found⟩⟩

end Sequences

/-- When errors are tolerated, only faults get through. -/
theorem QueryOptions.contain_eq_error_iff {Result : Type} {options : QueryOptions}
    {outcome : Outcome Result} {failure : Failure} (tolerant : options.strict = false) :
    options.contain outcome = .error failure ↔
      ∃ fault, fault? outcome = some fault ∧ failure = .fault fault := by
  rcases outcome with (error | fault) | result
  · simp [contain, tolerant, fault?]
  · simp [contain, giveUp, fault?, eq_comm]
  · simp [contain, fault?]

namespace Compose

section Items

variable {Item Result : Type} {options : QueryOptions} {compile : Item → Outcome Result}
  {items : List Item}

theorem each_eq_error_iff (tolerant : options.strict = false) {failure : Failure} :
    each options compile items = .error failure ↔
      ∃ fault, (items.findSome? fun item => fault? (compile item)) = some fault ∧
        failure = .fault fault := by
  induction items with
  | nil => simp [each]
  | cons item rest inductionHypothesis =>
      rw [List.findSome?_cons]
      cases found : fault? (compile item) with
      | some fault =>
          have gaveUp : options.contain (compile item) = .error (.fault fault) :=
            (QueryOptions.contain_eq_error_iff tolerant).mpr ⟨fault, found, rfl⟩
          simp [each, gaveUp, bind, Except.bind, eq_comm]
      | none =>
          cases contained : options.contain (compile item) with
          | error failure =>
              obtain ⟨fault, faulty, -⟩ :=
                (QueryOptions.contain_eq_error_iff tolerant).mp contained
              simp [found] at faulty
          | ok outcome =>
              simp only [← inductionHypothesis, each, contained, bind, Except.bind]
              cases each options compile rest <;> simp

theorem kept_of_each {outcomes : List (Except QueryError Result)}
    (compiled : each options compile items = .ok outcomes) :
    kept outcomes = items.filterMap fun item => (compile item).toOption := by
  have related := each_eq_ok_iff.mp compiled
  clear compiled
  induction related with
  | nil => rfl
  | @cons item outcome rest outcomes contained _ inductionHypothesis =>
      have same : outcome.toOption = (compile item).toOption := by
        rcases outcomeOf : compile item with (error | fault) | result
        · by_cases strict : options.strict = true
          · simp [outcomeOf, QueryOptions.contain, strict, reject] at contained
          · obtain rfl : .error error = outcome := by
              simpa [outcomeOf, QueryOptions.contain, strict] using contained
            rfl
        · simp [outcomeOf, QueryOptions.contain, giveUp] at contained
        · obtain rfl : .ok result = outcome := by
            simpa [outcomeOf, QueryOptions.contain] using contained
          rfl
      rw [kept, List.filterMap_cons, List.filterMap_cons, same, ← inductionHypothesis, kept]

end Items

def condition? (outcome : Outcome (Option Condition)) : Option Condition :=
  outcome.toOption.join

section Stages

variable {context : Context} {query : Query} {choice : Value} {request : Members}
  (tolerant : context.options.strict = false)

include tolerant

/-- Tolerant filters restrict a query by the conditions of the clauses that have one, unless a
clause has a fault. -/
theorem filters_of_tolerant (clauses : List FilterClause) :
    Prod.fst <$> filters context query clauses =
      match clauses.findSome? fun clause => fault? (compileClause context query.model clause) with
      | some fault => giveUp fault
      | none => .ok (query.restrictAll (clauses.filterMap fun clause =>
          condition? (compileClause context query.model clause))) := by
  unfold filters
  cases compiled : each context.options (compileClause context query.model) clauses with
  | error failure =>
      obtain ⟨fault, found, rfl⟩ := (each_eq_error_iff tolerant).mp compiled
      rw [found]
      rfl
  | ok outcomes =>
      have noFault : (clauses.findSome? fun clause =>
          fault? (compileClause context query.model clause)) = none := by
        by_contra faulty
        obtain ⟨fault, found⟩ := Option.ne_none_iff_exists'.mp faulty
        have failed := (each_eq_error_iff tolerant).mpr ⟨fault, found, rfl⟩
        simp [compiled] at failed
      have sameConditions : (kept outcomes).filterMap id =
          clauses.filterMap fun clause =>
            condition? (compileClause context query.model clause) := by
        rw [kept_of_each compiled, List.filterMap_filterMap]
        rfl
      rw [noFault, ← sameConditions]
      rfl

theorem filters_eq_error_iff {clauses : List FilterClause} {failure : Failure} :
    filters context query clauses = .error failure ↔
      ∃ fault, (clauses.findSome? fun clause =>
        fault? (compileClause context query.model clause)) = some fault ∧
          failure = .fault fault := by
  rw [← each_eq_error_iff tolerant, filters]
  cases each context.options (compileClause context query.model) clauses <;>
    simp [bind, Except.bind]

omit tolerant in
theorem model_of_filters {clauses : List FilterClause} {filtered : Query × List QueryError}
    (filtering : filters context query clauses = .ok filtered) :
    filtered.1.model = query.model := by
  obtain ⟨outcomes, -, same, -⟩ := filters_eq_ok_iff.mp filtering
  rw [← same]
  rfl

theorem search_returns (query : Query) (term : String) (fields : List String) :
    ∃ result, search context query (.str term) (fields.map Value.str) = .ok result := by
  have noFault (field : String) :
      fault? (compileSearch context query.model (.str term) (.str field)) = none := by
    rw [compileSearch, FieldPath.resolve_str, fault?_bind_of_sound _ fun path => rfl,
      fault?_ofChecked]
  unfold search
  split
  · exact ⟨_, rfl⟩
  · cases compiled : each context.options (compileSearch context query.model (.str term))
        (fields.map Value.str) with
    | ok outcomes => exact ⟨_, rfl⟩
    | error failure =>
        obtain ⟨fault, found, -⟩ := (each_eq_error_iff tolerant).mp compiled
        obtain ⟨value, member, faulty⟩ := List.exists_of_findSome?_eq_some found
        obtain ⟨field, -, rfl⟩ := List.mem_map.mp member
        simp [noFault] at faulty

theorem sorting_returns (query : Query) (clause : Option SortClause) :
    ∃ result, sorting context query clause = .ok result := by
  unfold sorting
  cases contained : context.options.contain (order context query clause) with
  | ok outcome => cases outcome <;> exact ⟨_, rfl⟩
  | error failure =>
      obtain ⟨fault, found, -⟩ := (QueryOptions.contain_eq_error_iff tolerant).mp contained
      cases clause <;> simp [order, fault?_bind_eq_some_iff] at found

theorem requestedSearch_eq_error_iff {failure : Failure} :
    requestedSearch context query choice request = .error failure ↔
      Clause.searchTerm? request = .error failure ∨
        ∃ term, Clause.searchTerm? request = .ok (some term) ∧
          Search.fields context.settings query.model choice request = .error failure := by
  rw [requestedSearch, bind_eq_error_iff]
  refine or_congr Iff.rfl ⟨?_, ?_⟩
  · rintro ⟨term?, wanted, failed⟩
    cases term? with
    | none => simp at failed
    | some term =>
        rcases bind_eq_error_iff.mp failed with unnamed | ⟨fields, -, unsearched⟩
        · exact ⟨term, wanted, unnamed⟩
        · obtain ⟨result, searched⟩ := search_returns tolerant query term fields
          simp [searched] at unsearched
  · rintro ⟨term, wanted, unnamed⟩
    exact ⟨some term, wanted, bind_eq_error_iff.mpr (.inl unnamed)⟩

/-- A request fails for the payload of its filters, for a fault of a clause, for the search term or
the search fields, for the order, or for the page. -/
theorem request_eq_error {failure : Failure}
    (failed : Compose.request context query choice request = .error failure) :
    Clause.filters (request.value "filters") = .error failure ∨
      (∃ clauses, Clause.filters (request.value "filters") = .ok clauses ∧
        ∃ clause ∈ clauses, ∃ fault,
          fault? (compileClause context query.model clause) = some fault ∧
            failure = .fault fault) ∨
      Clause.searchTerm? request = .error failure ∨
      (∃ term, Clause.searchTerm? request = .ok (some term) ∧
        Search.fields context.settings query.model choice request = .error failure) ∨
      Clause.sort? request = .error failure ∨
      Page.ofRequest context.options request = .error failure := by
  simp only [Compose.request, bind_eq_error_iff] at failed
  rcases failed with undecodable | ⟨clauses, read, failed⟩
  · exact .inl undecodable
  refine .inr ?_
  rcases failed with stopped | ⟨filtered, filtering, failed⟩
  · -- The stages before the page only fail as listed, so each is opened in turn.
    obtain ⟨fault, found, rfl⟩ := (filters_eq_error_iff tolerant).mp stopped
    obtain ⟨clause, member, faulty⟩ := List.exists_of_findSome?_eq_some found
    exact .inl ⟨clauses, read, clause, member, fault, faulty, rfl⟩
  refine .inr ?_
  rcases failed with unsearched | ⟨searched, searching, failed⟩
  · have unnamed := (requestedSearch_eq_error_iff tolerant).mp unsearched
    rw [model_of_filters filtering] at unnamed
    rcases unnamed with unread | unnamed
    · exact .inl unread
    · exact .inr (.inl unnamed)
  refine .inr (.inr ?_)
  rcases failed with unread | ⟨clause, -, failed⟩
  · exact .inl unread
  refine .inr ?_
  obtain ⟨ordered, sorted⟩ := sorting_returns tolerant searched.1 clause
  rcases failed with unsorted | ⟨_, -, unpaged | ⟨page, -, impossible⟩⟩
  · simp [sorted] at unsorted
  · exact unpaged
  · simp at impossible

theorem stages_of_request {composed : Composed}
    (returned : Compose.request context query choice request = .ok composed) :
    (∃ clauses, Clause.filters (request.value "filters") = .ok clauses ∧
      ∀ clause ∈ clauses, fault? (compileClause context query.model clause) = none) ∧
    (∃ term?, Clause.searchTerm? request = .ok term? ∧ ∀ term, term? = some term →
      ∃ names, Search.fields context.settings query.model choice request = .ok names) ∧
    (∃ clause?, Clause.sort? request = .ok clause?) ∧
    ∃ page, Page.ofRequest context.options request = .ok page := by
  simp only [Compose.request, bind_eq_ok_iff] at returned
  obtain ⟨clauses, read, filtered, filtering, searched, searching, order, ordering, ordered, -,
    page, paged, -⟩ := returned
  refine ⟨⟨clauses, read, ?_⟩, ?_, ⟨order, ordering⟩, page, paged⟩
  · obtain ⟨outcomes, compiled, -, -⟩ := filters_eq_ok_iff.mp filtering
    intro clause member
    by_contra faulty
    obtain ⟨fault, found⟩ := Option.ne_none_iff_exists'.mp faulty
    obtain ⟨outcome, contained⟩ := exists_outcome compiled member
    have failed := (QueryOptions.contain_eq_error_iff tolerant).mpr ⟨fault, found, rfl⟩
    simp [contained] at failed
  · have noFailure (failure : Failure) :
        requestedSearch context filtered.1 choice request ≠ .error failure := by
      simp [searching]
    obtain ⟨term?, wanted, -⟩ := bind_eq_ok_iff.mp searching
    refine ⟨term?, wanted, ?_⟩
    rintro term rfl
    cases chosen : Search.fields context.settings query.model choice request with
    | ok names => exact ⟨names, rfl⟩
    | error failure =>
        exact absurd ((requestedSearch_eq_error_iff tolerant).mpr
          (.inr ⟨term, wanted, model_of_filters filtering ▸ chosen⟩)) (noFailure failure)

end Stages

end Compose

end GridQuery
