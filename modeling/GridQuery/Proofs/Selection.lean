import GridQuery.Proofs.Outcome
import GridQuery.Store.Run

/-!
What a query selects, and when the store accepts it.  A further restriction
selects among the rows that were selected before; what the store accepts, it
accepts with fewer conditions and fewer sort terms.
-/

namespace GridQuery

/-- A restriction as a condition of three values: in a disjunction one unknown operand leaves open
what no true one decides. -/
def Restriction.truth (database : Database) (environment : Environment) : Restriction → Truth
  | .holds condition => Store.truth database environment condition
  | .someOf conditions =>
      conditions.foldr
        (fun condition later => (Store.truth database environment condition).or later) (some false)

def Query.truth (database : Database) (environment : Environment) (query : Query) : Truth :=
  query.restrictions.foldr (fun restriction later =>
    (restriction.truth database environment).and later) (some true)

namespace Store

theorem isTrue_restrictionTruth (database : Database) (environment : Environment)
    (restriction : Restriction) :
    (restriction.truth database environment).isTrue = meets database environment restriction := by
  cases restriction with
  | holds condition => rfl
  | someOf conditions =>
      simp only [Restriction.truth, meets]
      induction conditions with
      | nil => rfl
      | cons condition rest inductionHypothesis =>
          rw [List.foldr_cons, Truth.isTrue_or, inductionHypothesis, List.any_cons, holds]

theorem isTrue_queryTruth (database : Database) (environment : Environment) (query : Query) :
    (query.truth database environment).isTrue =
      query.restrictions.all (meets database environment) := by
  unfold Query.truth
  induction query.restrictions with
  | nil => rfl
  | cons restriction rest inductionHypothesis =>
      rw [List.foldr_cons, Truth.isTrue_and, inductionHypothesis, isTrue_restrictionTruth,
        List.all_cons]

/-- A query selects the rows of which its whole condition is true. -/
theorem select_eq_filter_truth (database : Database) (query : Query) :
    select database query = (database query.model.table.name).filter fun row =>
      (query.truth database (.ofRow query.model.table.name row)).isTrue := by
  simp only [select, isTrue_queryTruth]

theorem select_append (database : Database) (query : Query) (restrictions : List Restriction)
    (order : List SortTerm) :
    select database ⟨query.model, query.restrictions ++ restrictions, order⟩ =
      (select database query).filter fun row =>
        restrictions.all (meets database (.ofRow query.model.table.name row)) := by
  simp only [select, List.filter_filter, List.all_append, Bool.and_comm]

/-- The store takes a condition: it has a form for every parameter and resolves every name. -/
def Accepts (table : String) (condition : Condition) : Prop :=
  (∃ parameters, parameters? condition = some parameters ∧
    Parameter.firstFault? parameters = none) ∧
  Names.conditionResolves [[table]] condition = true

theorem firstFault?_flatten_eq_none_iff {parameters : List (List Parameter)} :
    Parameter.firstFault? parameters.flatten = none ↔
      ∀ group ∈ parameters, Parameter.firstFault? group = none := by
  simp only [Parameter.firstFault?, List.findSome?_eq_none_iff, List.mem_flatten]
  constructor
  · intro unfaulty group member parameter inGroup
    exact unfaulty parameter ⟨group, member, inGroup⟩
  · rintro unfaulty parameter ⟨group, member, inGroup⟩
    exact unfaulty group member parameter inGroup

theorem restrictionResolves_iff (tables : Names.Tables) (restriction : Restriction) :
    Names.restrictionResolves tables restriction = true ↔
      ∀ condition ∈ conditionsOf restriction, Names.conditionResolves tables condition = true := by
  cases restriction <;> simp [Names.restrictionResolves, conditionsOf]

theorem all_restrictionResolves_iff (tables : Names.Tables) (restrictions : List Restriction) :
    restrictions.all (Names.restrictionResolves tables) = true ↔
      ∀ condition ∈ restrictions.flatMap conditionsOf,
        Names.conditionResolves tables condition = true := by
  simp only [List.all_eq_true, restrictionResolves_iff, List.mem_flatMap]
  constructor
  · rintro resolve condition ⟨restriction, member, inRestriction⟩
    exact resolve restriction member condition inRestriction
  · intro resolve restriction member condition inRestriction
    exact resolve condition ⟨restriction, member, inRestriction⟩

theorem checkRestrictions_eq_ok_iff (query : Query) :
    checkRestrictions query = .ok () ↔
      ∀ condition ∈ query.restrictions.flatMap conditionsOf,
        Accepts query.model.table.name condition := by
  simp only [Accepts, imp_and, forall_and]
  rw [← exists_mapM_eq_some_iff, ← all_restrictionResolves_iff]
  simp only [← firstFault?_flatten_eq_none_iff]
  unfold checkRestrictions
  constructor
  · intro checked
    split at checked
    · simp [giveUp] at checked
    next parameters stored =>
    split at checked
    · simp [giveUp] at checked
    next resolved =>
    split at checked
    · simp [giveUp] at checked
    next unfaulty => exact ⟨⟨parameters, stored, unfaulty⟩, by simpa using resolved⟩
  · rintro ⟨⟨parameters, stored, unfaulty⟩, resolved⟩
    simp [stored, unfaulty, resolved]

theorem checkOrder_eq_ok_iff (query : Query) :
    checkOrder query = .ok () ↔
      ∀ term ∈ query.order, Names.keyResolves [[query.model.table.name]] term.key = true := by
  unfold checkOrder
  split
  · next resolved => simpa using resolved
  · next unresolved => simpa [giveUp] using unresolved

theorem rows_eq_ok_iff {database : Database} {query : Query} {found : List Row} :
    rows database query = .ok found ↔
      checkRestrictions query = .ok () ∧ checkOrder query = .ok () ∧
        sorted database query = found := by
  simp only [rows, bind_eq_ok_iff, Except.ok.injEq]
  constructor
  · rintro ⟨⟨⟩, restrictionsTaken, ⟨⟩, orderTaken, result⟩
    exact ⟨restrictionsTaken, orderTaken, result⟩
  · rintro ⟨restrictionsTaken, orderTaken, result⟩
    exact ⟨(), restrictionsTaken, (), orderTaken, result⟩

/-- What the store accepts, it accepts with fewer conditions and fewer sort terms. -/
theorem rows_eq_ok_of_subset {database : Database} {query smaller : Query} {found : List Row}
    (executed : rows database query = .ok found) (sameModel : smaller.model = query.model)
    (fewerConditions : smaller.restrictions.flatMap conditionsOf ⊆
      query.restrictions.flatMap conditionsOf)
    (fewerTerms : smaller.order ⊆ query.order) :
    rows database smaller = .ok (sorted database smaller) := by
  obtain ⟨restrictionsTaken, orderTaken, -⟩ := rows_eq_ok_iff.mp executed
  rw [checkRestrictions_eq_ok_iff] at restrictionsTaken
  rw [checkOrder_eq_ok_iff] at orderTaken
  refine rows_eq_ok_iff.mpr ⟨?_, ?_, rfl⟩
  · rw [checkRestrictions_eq_ok_iff, sameModel]
    exact fun condition member => restrictionsTaken condition (fewerConditions member)
  · rw [checkOrder_eq_ok_iff, sameModel]
    exact fun term member => orderTaken term (fewerTerms member)

theorem rows_perm_select {database : Database} {query : Query} {found : List Row}
    (executed : rows database query = .ok found) : found.Perm (select database query) := by
  obtain ⟨-, -, rfl⟩ := rows_eq_ok_iff.mp executed
  exact List.mergeSort_perm _ _

end Store

end GridQuery
