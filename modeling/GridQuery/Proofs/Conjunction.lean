import GridQuery.Proofs.Composition
import GridQuery.Sample.Rows
import Mathlib.Data.List.Perm.Subperm

/-!
A composed query is the conjunction of what its request asks for.  Up to their
order it selects the rows of the query it was composed onto that every clause
alone selects, and that the search selects in one of its fields alone.
-/

namespace GridQuery

open Store

namespace Compose

/-- A row that a query selects. -/
def Selects (database : Database) (query : Query) (row : Row) : Prop :=
  ∃ found, rows database query = .ok found ∧ row ∈ found

def SelectsWith (context : Context) (database : Database) (query : Query) (clause : FilterClause)
    (row : Row) : Prop :=
  ∃ restricted errors, filters context query [clause] = .ok (restricted, errors) ∧
    Selects database restricted row

/-- A field name that leads to a column. -/
def Resolves (context : Context) (model : Model) (field : String) : Prop :=
  ∃ path, FieldPath.resolve context.registry context.options model (.str field) = .ok path

/-- A row that every clause alone selects, and the search in one of the fields that resolve; a
search without such a field leaves every row. -/
structure Parts.Meets (context : Context) (database : Database) (query : Query) (asked : Parts)
    (row : Row) : Prop where
  clause : ∀ clause ∈ asked.clauses, SelectsWith context database query clause row
  search : ∀ term fields, asked.search = some (term, fields) →
    (∃ field ∈ fields, Resolves context query.model field) →
      ∃ field ∈ fields, Resolves context query.model field ∧
        SelectsWith context database query (searchClause term field) row

/-- A request that asks for all that another one does: its clauses in any order and number, and its
search, if it has one, in the same fields, in any order and number. -/
structure Parts.Covers (asked other : Parts) : Prop where
  clause : ∀ clause ∈ other.clauses, clause ∈ asked.clauses
  search : other.search = none ∨
    ∃ term fields otherFields, asked.search = some (term, fields) ∧
      other.search = some (term, otherFields) ∧ ∀ field, field ∈ fields ↔ field ∈ otherFields

theorem resolves_iff {context : Context} {model : Model} (term : String) {field : String} :
    Resolves context model field ↔
      ∃ condition,
        compileClause context model (searchClause term field) = .ok (some condition) := by
  simp only [← compileSearch_eq_compileClause, compileSearch, bind_eq_ok_iff]
  constructor
  · rintro ⟨path, resolved⟩
    exact ⟨_, path, resolved, rfl⟩
  · rintro ⟨-, path, resolved, -⟩
    exact ⟨path, resolved⟩

section Selection

variable {context : Context} {database : Database} {query : Query} {asked : Parts}
  {constraints alternatives : List Condition} {terms : List SortTerm} {found : List Row}

theorem mem_constraints_singleton_iff {clause : FilterClause}
    {outcome : Except QueryError (Option Condition)}
    (contained : context.options.contain (compileClause context query.model clause) = .ok outcome)
    (condition : Condition) : condition ∈ (kept [outcome]).filterMap id ↔
      compileClause context query.model clause = .ok (some condition) := by
  rw [mem_constraints_iff, List.mem_singleton]
  constructor
  · rintro rfl
    exact QueryOptions.contain_eq_ok_ok_iff.mp contained
  · intro compiled
    simpa [compiled, QueryOptions.contain] using contained

theorem selects_restrictAll_iff
    (executed : rows database ⟨query.model,
      query.restrictions ++ (constraints.map .holds ++ group alternatives),
      query.order ++ terms⟩ = .ok found)
    {conditions : List Condition} (added : conditions ⊆ constraints ++ alternatives) (row : Row) :
    Selects database (query.restrictAll conditions) row ↔ row ∈ select database query ∧
      ∀ condition ∈ conditions,
        holds database (.ofRow query.model.table.name row) condition = true := by
  have taken : rows database (query.restrictAll conditions) =
      .ok (sorted database (query.restrictAll conditions)) := by
    refine rows_eq_ok_of_subset executed rfl ?_ (List.subset_append_left _ _)
    intro condition member
    rw [List.flatMap_append, flatMap_conditionsOf_added]
    simp only [Query.restrictAll, List.flatMap_append, List.mem_append] at member
    rcases member with before | inConditions
    · exact List.mem_append_left _ before
    · apply List.mem_append_right
      apply added
      simpa [List.flatMap_map, conditionsOf] using inConditions
  have selected : row ∈ sorted database (query.restrictAll conditions) ↔
      row ∈ select database query ∧ ∀ condition ∈ conditions,
        holds database (.ofRow query.model.table.name row) condition = true := by
    rw [(rows_perm_select taken).mem_iff, Query.restrictAll, select_append, List.mem_filter]
    simp [meets]
  rw [← selected]
  simp only [Selects, taken, Except.ok.injEq, exists_eq_left']

theorem selectsWith_iff
    (executed : rows database ⟨query.model,
      query.restrictions ++ (constraints.map .holds ++ group alternatives),
      query.order ++ terms⟩ = .ok found)
    {clause : FilterClause} {outcome : Except QueryError (Option Condition)}
    (contained : context.options.contain (compileClause context query.model clause) = .ok outcome)
    (added : ∀ condition, compileClause context query.model clause = .ok (some condition) →
      condition ∈ constraints ++ alternatives) (row : Row) :
    SelectsWith context database query clause row ↔ row ∈ select database query ∧
      ∀ condition, compileClause context query.model clause = .ok (some condition) →
        holds database (.ofRow query.model.table.name row) condition = true := by
  have own := mem_constraints_singleton_iff contained
  have filtering : filters context query [clause] =
      .ok (query.restrictAll ((kept [outcome]).filterMap id), skipped [outcome]) := by
    simp [filters, each, contained, bind, Except.bind]
  have alone := selects_restrictAll_iff executed
    (fun condition member => added condition ((own condition).mp member)) row
  simp only [own] at alone
  rw [← alone]
  simp [SelectsWith, filtering]

section Parts

variable (yields : Yields context query.model asked constraints alternatives)
  (executed : rows database ⟨query.model,
    query.restrictions ++ (constraints.map .holds ++ group alternatives),
    query.order ++ terms⟩ = .ok found)
  {row : Row} (selected : row ∈ select database query)

include yields executed selected

theorem selectsWith_clause_iff {clause : FilterClause} (member : clause ∈ asked.clauses) :
    SelectsWith context database query clause row ↔
      ∀ condition, compileClause context query.model clause = .ok (some condition) →
        holds database (.ofRow query.model.table.name row) condition = true := by
  obtain ⟨outcome, contained⟩ := yields.outcome clause member
  rw [selectsWith_iff executed contained]
  · simp [selected]
  · intro condition compiled
    apply List.mem_append_left
    exact (yields.constraint condition).mpr ⟨clause, member, compiled⟩

/-- A field that resolves has an alternative of its own, which a clause on the field yields too. -/
theorem selectsWith_searchClause_iff {term field : String} {fields : List String}
    (searched : asked.search = some (term, fields)) (member : field ∈ fields)
    {condition : Condition} (compiled : compileClause context query.model
      (searchClause term field) = .ok (some condition)) :
    SelectsWith context database query (searchClause term field) row ↔
      holds database (.ofRow query.model.table.name row) condition = true := by
  rw [selectsWith_iff executed (QueryOptions.contain_eq_ok_ok_iff.mpr compiled)]
  · simp [selected, compiled]
  · intro other compiledToo
    apply List.mem_append_right
    exact (yields.alternative other).mpr ⟨term, fields, searched, field, member, compiledToo⟩

theorem meets_iff : asked.Meets context database query row ↔
    (constraints.map Restriction.holds ++ group alternatives).all
      (Store.meets database (.ofRow query.model.table.name row)) = true := by
  rw [List.all_append, Bool.and_eq_true, all_meets_group_iff]
  simp only [List.all_map, List.all_eq_true, Function.comp_apply, Store.meets]
  constructor
  · intro meets
    constructor
    · intro condition member
      obtain ⟨clause, inClauses, compiled⟩ := (yields.constraint condition).mp member
      exact (selectsWith_clause_iff yields executed selected inClauses).mp
        (meets.clause clause inClauses) condition compiled
    · rintro ⟨condition, member⟩
      obtain ⟨term, fields, searched, field, inFields, compiled⟩ :=
        (yields.alternative condition).mp member
      obtain ⟨chosen, chosenMember, resolves, selects⟩ := meets.search term fields searched
        ⟨field, inFields, (resolves_iff term).mpr ⟨condition, compiled⟩⟩
      obtain ⟨other, otherCompiled⟩ := (resolves_iff term).mp resolves
      refine ⟨other, (yields.alternative other).mpr
        ⟨term, fields, searched, chosen, chosenMember, otherCompiled⟩, ?_⟩
      exact (selectsWith_searchClause_iff yields executed selected searched chosenMember
        otherCompiled).mp selects
  · rintro ⟨allHold, someHolds⟩
    constructor
    · intro clause member
      rw [selectsWith_clause_iff yields executed selected member]
      exact fun condition compiled =>
        allHold condition ((yields.constraint condition).mpr ⟨clause, member, compiled⟩)
    · rintro term fields searched ⟨field, inFields, resolves⟩
      obtain ⟨condition, compiled⟩ := (resolves_iff term).mp resolves
      obtain ⟨other, member, otherHolds⟩ := someHolds ⟨condition,
        (yields.alternative condition).mpr ⟨term, fields, searched, field, inFields, compiled⟩⟩
      obtain ⟨sameTerm, sameFields, searchedToo, chosen, chosenMember, otherCompiled⟩ :=
        (yields.alternative other).mp member
      obtain ⟨rfl, rfl⟩ : term = sameTerm ∧ fields = sameFields := by
        simpa [searched] using searchedToo
      refine ⟨chosen, chosenMember, (resolves_iff term).mpr ⟨other, otherCompiled⟩, ?_⟩
      exact (selectsWith_searchClause_iff yields executed selected searched chosenMember
        otherCompiled).mpr otherHolds

end Parts

end Selection

theorem Parts.Covers.refl (asked : Parts) : asked.Covers asked := by
  refine ⟨fun clause member => member, ?_⟩
  cases searched : asked.search with
  | none => exact .inl rfl
  | some search => exact .inr ⟨search.1, search.2, search.2, rfl, rfl, fun field => Iff.rfl⟩

theorem Parts.Covers.meets {context : Context} {database : Database} {query : Query}
    {asked other : Parts} (covers : asked.Covers other) {row : Row}
    (meets : asked.Meets context database query row) :
    other.Meets context database query row := by
  refine ⟨fun clause member => meets.clause clause (covers.clause clause member), ?_⟩
  rintro term fields searched ⟨field, member, resolves⟩
  rcases covers.search with none | ⟨sameTerm, askedFields, otherFields, inAsked, inOther, same⟩
  · simp [none] at searched
  · obtain ⟨rfl, rfl⟩ : sameTerm = term ∧ otherFields = fields := by simpa [inOther] using searched
    obtain ⟨chosen, chosenMember, selected⟩ :=
      meets.search sameTerm askedFields inAsked ⟨field, (same field).mpr member, resolves⟩
    exact ⟨chosen, (same chosen).mp chosenMember, selected⟩

open Classical in
/-- The rows of a composed query are those of the query it was composed onto that meet every part
of the request: each clause alone, and the search in a field of it alone. -/
theorem request_rows {context : Context} {query : Query} {choice : Value} {request : Members}
    {composed : Composed}
    (returned : Compose.request context query choice request = .ok composed) {database : Database}
    {found : List Row} (executed : rows database composed.query = .ok found) :
    ∃ asked before, parts context query.model choice request = .ok asked ∧
      rows database query = .ok before ∧
      found.Perm (before.filter fun row => asked.Meets context database query row) := by
  obtain ⟨asked, constraints, alternatives, terms, read, yields, shape, -⟩ := request_eq_ok returned
  rw [shape] at executed
  have taken : rows database query = .ok (sorted database query) := by
    refine rows_eq_ok_of_subset executed rfl ?_ (List.subset_append_left _ _)
    intro condition member
    exact List.mem_flatMap.mpr (by
      obtain ⟨restriction, inQuery, inRestriction⟩ := List.mem_flatMap.mp member
      exact ⟨restriction, List.mem_append_left _ inQuery, inRestriction⟩)
  refine ⟨asked, _, read, taken, ?_⟩
  refine (rows_perm_select executed).trans (.trans ?_ ((rows_perm_select taken).filter _).symm)
  rw [select_append]
  refine .of_eq (List.filter_congr fun row selected => ?_)
  rw [Bool.eq_iff_iff, ← meets_iff yields executed selected, decide_eq_true_iff]

theorem parts_eq_of_value_eq (context : Context) (model : Model) (choice : Value)
    {request other : Members}
    (same : ∀ name ∈ ["filters", "globalFilter", "globalFilterFields"],
      request.value name = other.value name) :
    parts context model choice request = parts context model choice other := by
  simp only [List.forall_mem_cons, List.not_mem_nil, IsEmpty.forall_iff, implies_true,
    and_true] at same
  obtain ⟨sameFilters, sameTerm, sameFields⟩ := same
  simp only [parts, Clause.searchTerm?, Search.fields, sameFilters, sameTerm, sameFields]

open Classical in
/-- A composed query is the conjunction of its parts.  Hence no row comes more often than before,
a request that covers another one selects no other rows, requests that cover each other select the
same rows, and an order only permutes them. -/
theorem request_isConjunction {context : Context} {query : Query} {choice : Value}
    {request : Members} {composed : Composed}
    (returned : Compose.request context query choice request = .ok composed) {database : Database}
    {found : List Row} (executed : rows database composed.query = .ok found) :
    ∃ asked before, parts context query.model choice request = .ok asked ∧
      rows database query = .ok before ∧
      found.Perm (before.filter fun row => asked.Meets context database query row) ∧
      found.Subperm before ∧
      ∀ {otherChoice : Value} {otherRequest : Members} {otherComposed : Composed}
        {otherAsked : Parts} {otherFound : List Row},
        Compose.request context query otherChoice otherRequest = .ok otherComposed →
        parts context query.model otherChoice otherRequest = .ok otherAsked →
        rows database otherComposed.query = .ok otherFound →
        (asked.Covers otherAsked → found.Subperm otherFound) ∧
        (asked.Covers otherAsked → otherAsked.Covers asked → found.Perm otherFound) ∧
        (otherChoice = choice → (∀ name ∈ ["filters", "globalFilter", "globalFilterFields"],
          otherRequest.value name = request.value name) → found.Perm otherFound) := by
  obtain ⟨asked, before, read, executedBefore, conjunction⟩ := request_rows returned executed
  refine ⟨asked, before, read, executedBefore, conjunction,
    conjunction.subperm.trans List.filter_sublist.subperm, ?_⟩
  intro otherChoice otherRequest otherComposed otherAsked otherFound otherReturned otherRead
    otherExecuted
  obtain ⟨sameAsked, sameBefore, readToo, executedToo, otherConjunction⟩ :=
    request_rows otherReturned otherExecuted
  obtain rfl : sameAsked = otherAsked := by simpa [otherRead] using readToo.symm
  obtain rfl : before = sameBefore := by simpa [executedBefore] using executedToo
  have equivalent (forward : asked.Covers sameAsked) (backward : sameAsked.Covers asked) :
      found.Perm otherFound := by
    refine conjunction.trans (.trans (.of_eq ?_) otherConjunction.symm)
    refine List.filter_congr fun row _ => ?_
    rw [decide_eq_decide]
    exact ⟨forward.meets, backward.meets⟩
  refine ⟨fun covers => ?_, equivalent, ?_⟩
  · refine conjunction.subperm.trans (.trans ?_ otherConjunction.symm.subperm)
    refine (List.monotone_filter_right before fun row meets => ?_).subperm
    simpa using covers.meets (by simpa using meets)
  · rintro rfl same
    obtain rfl : asked = sameAsked := by
      rw [parts_eq_of_value_eq _ _ _ same, read] at otherRead
      simpa using otherRead
    exact equivalent (.refl asked) (.refl asked)

/-- Of the posts whose author's name starts with "ali", two have an "o" in their title or in the
name of one of their tags; the clause on an unknown field restricts nothing. -/
theorem request_isConjunction_posts :
    let context : Context := ⟨.ofSchema Sample.schema, {}, {}⟩
    let query : Query := ⟨Sample.post, [], []⟩
    let asked : Members := [
      ("filters", .list [
        .object [("field", .str "author.name"), ("operator", .str "startsWith"),
          ("value", .str "ali")],
        .object [("field", .str "nonsense"), ("value", .int 1)]]),
      ("globalFilter", .str "o"),
      ("globalFilterFields", .list [.str "tags.name", .str "title"]),
      ("sortField", .str "views"), ("sortOrder", .int (-1))]
    ∃ composed found before, Compose.request context query .null asked = .ok composed ∧
      rows Sample.database composed.query = .ok found ∧ found.length = 2 ∧
      rows Sample.database query = .ok before ∧ found.Subperm before := by
  intro context query asked
  have evaluated : (do
      let composed ← Compose.request context query .null asked
      checkRestrictions composed.query
      checkOrder composed.query
      .ok (select Sample.database composed.query).length) = (.ok 2 : Outcome Nat) := by
    decide +kernel
  simp only [bind_eq_ok_iff] at evaluated
  obtain ⟨composed, returned, _, restrictionsTaken, _, orderTaken, two⟩ := evaluated
  have executed : rows Sample.database composed.query =
      .ok (sorted Sample.database composed.query) :=
    rows_eq_ok_iff.mpr ⟨restrictionsTaken, orderTaken, rfl⟩
  obtain ⟨_, before, -, executedBefore, -, among, -⟩ := request_isConjunction returned executed
  refine ⟨composed, _, before, returned, executed, ?_, executedBefore, among⟩
  rw [(rows_perm_select executed).length_eq]
  simpa using two

end Compose

end GridQuery
