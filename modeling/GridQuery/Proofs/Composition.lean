import GridQuery.Compose
import GridQuery.Proofs.Selection
import Mathlib.Data.List.Forall2

/-!
The shape of a composed query.  A request adds to a query the conditions of its
clauses, at most one group of conditions for its search, and at most one sort
term; each of them comes from a field name that resolves.
-/

namespace GridQuery

open Store

namespace Compose

section Outcomes

variable {Item Result : Type} {options : QueryOptions} {compile : Item → Outcome Result}
  {items : List Item} {outcomes : List (Except QueryError Result)}

theorem each_eq_ok_iff :
    each options compile items = .ok outcomes ↔
      List.Forall₂ (fun item outcome => options.contain (compile item) = .ok outcome) items
        outcomes := by
  induction items generalizing outcomes with
  | nil => cases outcomes <;> simp [each]
  | cons item rest inductionHypothesis =>
      simp only [each, bind_eq_ok_iff, Except.ok.injEq, inductionHypothesis,
        List.forall₂_cons_left_iff]
      constructor
      · rintro ⟨outcome, contained, others, othersContained, rfl⟩
        exact ⟨outcome, others, contained, othersContained, rfl⟩
      · rintro ⟨outcome, others, contained, othersContained, rfl⟩
        exact ⟨outcome, contained, others, othersContained, rfl⟩

theorem mem_outcomes_iff (compiled : each options compile items = .ok outcomes)
    {outcome : Except QueryError Result} :
    outcome ∈ outcomes ↔ ∃ item ∈ items, options.contain (compile item) = .ok outcome := by
  have related := each_eq_ok_iff.mp compiled
  clear compiled
  induction related with
  | nil => simp
  | @cons item result rest others contained _ inductionHypothesis =>
      simp only [List.mem_cons, inductionHypothesis, exists_eq_or_imp, contained, Except.ok.injEq,
        eq_comm (a := outcome)]

theorem exists_outcome (compiled : each options compile items = .ok outcomes) {item : Item}
    (member : item ∈ items) : ∃ outcome, options.contain (compile item) = .ok outcome := by
  have related := each_eq_ok_iff.mp compiled
  clear compiled
  induction related with
  | nil => simp at member
  | @cons first result rest others contained _ inductionHypothesis =>
      rcases List.mem_cons.mp member with rfl | inRest
      · exact ⟨result, contained⟩
      · exact inductionHypothesis inRest

end Outcomes

theorem mem_constraints_iff {outcomes : List (Except QueryError (Option Condition))}
    {condition : Condition} :
    condition ∈ (kept outcomes).filterMap id ↔ .ok (some condition) ∈ outcomes := by
  simp only [kept, List.mem_filterMap, id]
  constructor
  · rintro ⟨_, ⟨outcome, member, result⟩, rfl⟩
    cases outcome with
    | error error => simp [Except.toOption] at result
    | ok constraint =>
        obtain rfl : constraint = some condition := by simpa [Except.toOption] using result
        exact member
  · intro member
    exact ⟨_, ⟨_, member, rfl⟩, rfl⟩

def group (conditions : List Condition) : List Restriction :=
  if conditions.isEmpty then [] else [.someOf conditions]

theorem all_meets_group_iff (database : Database) (environment : Environment)
    (conditions : List Condition) :
    (group conditions).all (meets database environment) = true ↔
      (∃ condition, condition ∈ conditions) →
        ∃ condition ∈ conditions, holds database environment condition = true := by
  cases conditions with
  | nil => simp [group]
  | cons condition rest =>
      simp only [group, List.isEmpty_cons, Bool.false_eq_true, if_false, List.all_cons,
        List.all_nil, Bool.and_true, meets, List.any_eq_true]
      exact ⟨fun found _ => found, fun found => found ⟨condition, by simp⟩⟩

theorem flatMap_conditionsOf_group (conditions : List Condition) :
    (group conditions).flatMap conditionsOf = conditions := by
  cases conditions <;> simp [group, conditionsOf]

theorem flatMap_conditionsOf_added (constraints alternatives : List Condition) :
    (constraints.map Restriction.holds ++ group alternatives).flatMap conditionsOf =
      constraints ++ alternatives := by
  rw [List.flatMap_append, flatMap_conditionsOf_group, List.flatMap_map]
  simp [conditionsOf]

/-- What a request asks for, apart from its order and its page. -/
structure Parts where
  clauses : List FilterClause
  /-- The search term and the fields in which it is looked for. -/
  search : Option (String × List String)

def parts (context : Context) (model : Model) (choice : Value) (request : Members) :
    Outcome Parts := do
  let clauses ← Clause.filters (request.value "filters")
  match ← Clause.searchTerm? request with
  | none => .ok ⟨clauses, none⟩
  | some term =>
      let fields ← Search.fields context.settings model choice request
      .ok ⟨clauses, some (term, fields)⟩

def searchClause (term field : String) : FilterClause :=
  ⟨field, MatchMode.contains.name, .str term⟩

/-- The conditions that the parts of a request put on the rows of a model. -/
structure Yields (context : Context) (model : Model) (asked : Parts)
    (constraints alternatives : List Condition) : Prop where
  outcome : ∀ clause ∈ asked.clauses,
    ∃ outcome, context.options.contain (compileClause context model clause) = .ok outcome
  constraint : ∀ condition, condition ∈ constraints ↔ ∃ clause ∈ asked.clauses,
    compileClause context model clause = .ok (some condition)
  alternative : ∀ condition, condition ∈ alternatives ↔
    ∃ term fields, asked.search = some (term, fields) ∧ ∃ field ∈ fields,
      compileClause context model (searchClause term field) = .ok (some condition)

section Shape

variable {context : Context} {query : Query}

/-- A search compiles a field as a clause that looks for the term in it. -/
theorem compileSearch_eq_compileClause (model : Model) (term field : String) :
    compileSearch context model (.str term) (.str field) =
      compileClause context model (searchClause term field) := by
  have known : MatchMode.read (.str MatchMode.contains.name) = fun _ => .ok .contains := by
    funext name
    rfl
  simp [compileSearch, compileClause, Filter.compileRaw, known, searchClause, bind, Except.bind]

theorem exists_of_compileClause {model : Model} {clause : FilterClause} {condition : Condition}
    (compiled : compileClause context model clause = .ok (some condition)) :
    ∃ path mode,
      FieldPath.resolve context.registry context.options model (.str clause.field) = .ok path ∧
        Filter.compile path mode clause.value = .ok (some condition) := by
  simp only [compileClause, Filter.compileRaw, bind_eq_ok_iff] at compiled
  obtain ⟨path, resolved, mode, -, compiled⟩ := compiled
  exact ⟨path, mode, resolved, compiled⟩

theorem isTruthy_of_searchTerm? {request : Members} {term : String}
    (wanted : Clause.searchTerm? request = .ok (some term)) :
    (Value.str term).isTruthy = true := by
  have notBlank : Text.isBlankText term = false := by
    unfold Clause.searchTerm? at wanted
    split at wanted
    · simp at wanted
    · obtain ⟨text, -, kept⟩ := bind_eq_ok_iff.mp wanted
      cases blank : Text.isBlankText text with
      | true => simp [blank] at kept
      | false =>
          obtain rfl : text = term := by simpa [blank] using kept
          exact blank
  by_contra empty
  have : term = "" := by simpa [Value.isTruthy] using empty
  subst this
  simp [Text.isBlankText] at notBlank

theorem filters_eq_ok_iff {clauses : List FilterClause} {filtered : Query}
    {errors : List QueryError} :
    filters context query clauses = .ok (filtered, errors) ↔
      ∃ outcomes, each context.options (compileClause context query.model) clauses = .ok outcomes ∧
        query.restrictAll ((kept outcomes).filterMap id) = filtered ∧
        skipped outcomes = errors := by
  simp [filters, bind_eq_ok_iff]

theorem sorting_eq_ok {clause : Option SortClause} {ordered : Query} {errors : List QueryError}
    (composed : sorting context query clause = .ok (ordered, errors)) :
    ∃ terms, ordered = ⟨query.model, query.restrictions, query.order ++ terms⟩ ∧
      ∀ term ∈ terms, ∃ wanted,
        SortTerm.ofClause context.registry context.options query.model wanted = .ok term := by
  obtain ⟨outcome, contained, result⟩ := bind_eq_ok_iff.mp composed
  cases outcome with
  | error error =>
      obtain ⟨rfl, -⟩ : query = ordered ∧ [error] = errors := by simpa using result
      exact ⟨[], by simp, by simp⟩
  | ok found =>
      obtain ⟨rfl, -⟩ : found = ordered ∧ [] = errors := by simpa using result
      rw [QueryOptions.contain_eq_ok_ok_iff] at contained
      cases clause with
      | none =>
          obtain rfl : query = found := by simpa [order] using contained
          exact ⟨[], by simp, by simp⟩
      | some wanted =>
          obtain ⟨term, read, rfl⟩ : ∃ term, SortTerm.ofClause context.registry context.options
              query.model wanted = .ok term ∧ query.orderBy term = found := by
            simpa [order, bind_eq_ok_iff] using contained
          exact ⟨[term], rfl, by simpa using ⟨wanted, read⟩⟩

theorem requestedSearch_eq_ok {choice : Value} {request : Members} {searched : Query}
    {errors : List QueryError}
    (composed : requestedSearch context query choice request = .ok (searched, errors)) :
    ∃ search alternatives,
      (∀ clauses, Clause.filters (request.value "filters") = .ok clauses →
        parts context query.model choice request = .ok ⟨clauses, search⟩) ∧
      searched = ⟨query.model, query.restrictions ++ group alternatives, query.order⟩ ∧
      ∀ condition, condition ∈ alternatives ↔
        ∃ term fields, search = some (term, fields) ∧ ∃ field ∈ fields,
          compileClause context query.model (searchClause term field) = .ok (some condition) := by
  obtain ⟨term?, wanted, composed⟩ := bind_eq_ok_iff.mp composed
  cases term? with
  | none =>
      obtain ⟨rfl, -⟩ : query = searched ∧ [] = errors := by simpa using composed
      refine ⟨none, [], ?_, by simp [group], by simp⟩
      intro clauses read
      simp [parts, read, wanted, bind, Except.bind]
  | some term =>
      obtain ⟨fields, chosen, composed⟩ := bind_eq_ok_iff.mp composed
      simp only [search, isTruthy_of_searchTerm? wanted, Bool.not_true, Bool.false_eq_true,
        if_false, bind_eq_ok_iff, Except.ok.injEq, Prod.mk.injEq] at composed
      obtain ⟨outcomes, compiled, rfl, -⟩ := composed
      refine ⟨some (term, fields), (kept outcomes).filterMap id, ?_, ?_, ?_⟩
      · intro clauses read
        simp [parts, read, wanted, chosen, bind, Except.bind]
      · unfold group
        split <;> simp [Query.restrict]
      · intro condition
        rw [mem_constraints_iff, mem_outcomes_iff compiled]
        simp [compileSearch_eq_compileClause]

/-- A composed query is the one it was composed onto, restricted by all constraints of the clauses
and one alternative of the search, and ordered further. -/
theorem request_eq_ok {choice : Value} {request : Members} {composed : Composed}
    (returned : Compose.request context query choice request = .ok composed) :
    ∃ asked constraints alternatives terms,
      parts context query.model choice request = .ok asked ∧
      Yields context query.model asked constraints alternatives ∧
      composed.query = ⟨query.model,
        query.restrictions ++ (constraints.map .holds ++ group alternatives),
        query.order ++ terms⟩ ∧
      ∀ term ∈ terms, ∃ wanted,
        SortTerm.ofClause context.registry context.options query.model wanted = .ok term := by
  simp only [Compose.request, bind_eq_ok_iff] at returned
  obtain ⟨clauses, read, ⟨filtered, badFilters⟩, filtering, ⟨searched, badFields⟩, searching,
    order, -, ⟨ordered, badOrder⟩, sorting, page, -, result⟩ := returned
  obtain ⟨outcomes, compiled, rfl, -⟩ := filters_eq_ok_iff.mp filtering
  obtain ⟨search, alternatives, asked, rfl, alternative⟩ := requestedSearch_eq_ok searching
  obtain ⟨terms, rfl, wanted⟩ := sorting_eq_ok sorting
  obtain rfl : _ = composed := by simpa using result
  refine ⟨⟨clauses, search⟩, (kept outcomes).filterMap id, alternatives, terms, asked clauses read,
    ⟨?_, ?_, alternative⟩, ?_, wanted⟩
  · exact fun clause member => exists_outcome compiled member
  · intro condition
    rw [mem_constraints_iff, mem_outcomes_iff compiled]
    simp
  · simp [Query.restrictAll, List.append_assoc]

theorem mem_or_exists_of_request {choice : Value} {request : Members} {composed : Composed}
    (returned : Compose.request context query choice request = .ok composed) {condition : Condition}
    (member : condition ∈ composed.query.restrictions.flatMap conditionsOf) :
    condition ∈ query.restrictions.flatMap conditionsOf ∨
      ∃ clause, compileClause context query.model clause = .ok (some condition) := by
  obtain ⟨asked, constraints, alternatives, terms, -, yields, shape, -⟩ := request_eq_ok returned
  rw [shape, List.flatMap_append, flatMap_conditionsOf_added] at member
  rcases List.mem_append.mp member with before | added
  · exact .inl before
  rcases List.mem_append.mp added with isConstraint | isAlternative
  · obtain ⟨clause, -, compiled⟩ := (yields.constraint condition).mp isConstraint
    exact .inr ⟨clause, compiled⟩
  · obtain ⟨_, _, -, _, -, compiled⟩ := (yields.alternative condition).mp isAlternative
    exact .inr ⟨_, compiled⟩

end Shape

end Compose

end GridQuery
