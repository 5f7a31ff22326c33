import GridQuery.Proofs.BlankValue
import GridQuery.Proofs.Entry
import GridQuery.Proofs.Resolution
import GridQuery.Sample.Rows
import GridQuery.Store.Run

/-!
Declared filters as field filters.  A declared filter with a value stands for a
record that a client could send, with the filter's field and mode.  The two are
compiled alike and fail alike but for blank values: a client's record with one
asks for nothing, a declared filter hands it to its column, and some columns
take it.
-/

namespace GridQuery

@[simp] theorem Query.restrictAll_nil (query : Query) : query.restrictAll [] = query := by
  simp [restrictAll]

@[simp] theorem Query.restrictAll_restrictAll (query : Query) (first second : List Condition) :
    (query.restrictAll first).restrictAll second = query.restrictAll (first ++ second) := by
  simp [restrictAll, List.append_assoc]

theorem Query.restrictAll_inj {query : Query} {first second : List Condition} :
    query.restrictAll first = query.restrictAll second ↔ first = second := by
  have injective : Function.Injective Restriction.holds := by
    intro one other same
    simpa using same
  simp [restrictAll, (List.map_injective_iff.mpr injective).eq_iff]

section Choices

variable {Item Result : Type} {choose leave : Item → Option Result} {items : List Item}
  (left : ∀ item ∈ items, leave item = choose item ∨ leave item = none)

include left

theorem filterMap_sublist_filterMap : (items.filterMap leave).Sublist (items.filterMap choose) := by
  induction items with
  | nil => simp
  | cons item rest inductionHypothesis =>
      obtain ⟨here, later⟩ := List.forall_mem_cons.mp left
      have kept := inductionHypothesis later
      rcases here with same | dropped
      · rw [List.filterMap_cons, List.filterMap_cons, same]
        cases choose item with
        | none => exact kept
        | some result => exact kept.cons_cons result
      · rw [List.filterMap_cons_none dropped, List.filterMap_cons]
        cases choose item with
        | none => exact kept
        | some result => exact kept.cons result

theorem filterMap_eq_filterMap_iff :
    items.filterMap choose = items.filterMap leave ↔
      ∀ item ∈ items, leave item = choose item := by
  induction items with
  | nil => simp
  | cons item rest inductionHypothesis =>
      obtain ⟨here, later⟩ := List.forall_mem_cons.mp left
      rw [List.forall_mem_cons, ← inductionHypothesis later, List.filterMap_cons,
        List.filterMap_cons]
      have sublist := (filterMap_sublist_filterMap later).length_le
      cases chosen : choose item with
      | none =>
          have dropped : leave item = none := by simpa [chosen] using here
          simp [dropped]
      | some result =>
          rw [chosen] at here
          rcases here with same | dropped
          · simp [same]
          · have longer : result :: rest.filterMap choose ≠ rest.filterMap leave := by
              intro same
              have := congrArg List.length same
              simp only [List.length_cons] at this
              omega
            simp [dropped, longer]

end Choices

theorem MatchMode.read_name (mode : MatchMode) (field : Option String) :
    read (.str mode.name) field = .ok mode := by
  have named : (Value.str mode.name).orElse (.str equals.name) = .str mode.name := by
    cases mode <;> rfl
  have stripped : Text.strip mode.name = mode.name := by
    cases mode <;> decide +kernel
  simp only [read, named, Value.text_str, bind, Except.bind, stripped, ofName?_name]

namespace CustomFilter

/-- The field that a declared filter constrains: its column, or else its key. -/
def field (declared : String × CustomFilter) : Value :=
  declared.2.column.orElse (.str declared.1)

/-- The record that a declared filter stands for in a request. -/
def record? (request : Members) (declared : String × CustomFilter) : Option Value :=
  match request.value declared.1 with
  | .null => none
  | value => (kinds.lookup declared.2.kind).map fun mode =>
      .object [("field", field declared), ("operator", .str mode.name), ("value", value)]

def outcome (context : Context) (model : Model) (request : Members)
    (declared : String × CustomFilter) : Outcome (Option Condition) :=
  match request.value declared.1 with
  | .null => .ok none
  | value => compile context model declared.1 declared.2 value

section Runs

variable {context : Context} {query : Query} {request : Members} {declared : String × CustomFilter}
  {filters : List (String × CustomFilter)}

theorem outcome_of_null {model : Model} (null : request.value declared.1 = .null) :
    outcome context model request declared = .ok none := by
  rw [outcome, null]

theorem outcome_of_ne_null {model : Model} (given : request.value declared.1 ≠ .null) :
    outcome context model request declared =
      compile context model declared.1 declared.2 (request.value declared.1) := by
  unfold outcome
  split
  · contradiction
  · rfl

theorem apply_cons :
    apply context query request (declared :: filters) =
      apply context query request [declared] >>= fun restricted =>
        apply context restricted request filters := by
  simp only [apply, List.foldlM_cons, List.foldlM_nil, bind_pure]

variable (tolerant : context.options.strict = false)

include tolerant

theorem applyOne_of_tolerant {key : String} {filter : CustomFilter} {value : Value}
    (noCallback : filter.callback = none) :
    applyOne context query key filter value =
      match fault? (compile context query.model key filter value) with
      | some fault => giveUp fault
      | none => .ok (query.restrictAll
          (Compose.condition? (compile context query.model key filter value)).toList) := by
  rw [applyOne, noCallback]
  dsimp only
  rcases compile context query.model key filter value with (error | fault) | condition
  · simp [QueryOptions.contain, tolerant, fault?, Compose.condition?, Except.toOption, bind,
      Except.bind]
  · rfl
  · rfl

theorem apply_singleton (noCallback : declared.2.callback = none) :
    apply context query request [declared] =
      match fault? (outcome context query.model request declared) with
      | some fault => giveUp fault
      | none => .ok (query.restrictAll
          (Compose.condition? (outcome context query.model request declared)).toList) := by
  simp only [apply, List.foldlM_cons, List.foldlM_nil, bind_pure]
  split
  · next null =>
      rw [outcome_of_null null]
      simp [Compose.condition?, Except.toOption]
  · next given =>
      rw [outcome_of_ne_null given, applyOne_of_tolerant tolerant noCallback]

/-- Without callbacks declared filters restrict a query by what each of them asks, unless one of
them has a fault. -/
theorem apply_of_tolerant (noCallbacks : ∀ declared ∈ filters, declared.2.callback = none) :
    apply context query request filters =
      match filters.findSome? fun declared =>
        fault? (outcome context query.model request declared) with
      | some fault => giveUp fault
      | none => .ok (query.restrictAll (filters.filterMap fun declared =>
          Compose.condition? (outcome context query.model request declared))) := by
  -- Each filter starts from the query that the ones before it left; only its model stays the same.
  induction filters generalizing query with
  | nil => simp [apply, pure, Except.pure]
  | cons declared rest inductionHypothesis =>
      obtain ⟨noCallback, later⟩ := List.forall_mem_cons.mp noCallbacks
      rw [apply_cons, apply_singleton tolerant noCallback, List.findSome?_cons]
      cases fault? (outcome context query.model request declared) with
      | some fault => rfl
      | none =>
          have sameModel (conditions : List Condition) :
              (query.restrictAll conditions).model = query.model := rfl
          simp only [bind, Except.bind, inductionHypothesis later, sameModel,
            Query.restrictAll_restrictAll, List.filterMap_cons]
          cases Compose.condition? (outcome context query.model request declared) <;> rfl

end Runs

/-- The clause of the record that a declared filter stands for. -/
def clause? (request : Members) (declared : String × CustomFilter) : Option FilterClause :=
  (record? request declared).bind fun record => (Clause.ofRecord? record).toOption.join

/-- A declared filter with a blank value that its column takes. -/
def ConstrainsBlank (context : Context) (model : Model) (request : Members)
    (declared : String × CustomFilter) : Prop :=
  (request.value declared.1).isBlank = true ∧ ∃ mode path,
    kinds.lookup declared.2.kind = some mode ∧
      FieldPath.resolve context.registry context.options model (field declared) = .ok path ∧
      Filter.constrainsBlank mode path.field.column.kind (request.value declared.1) = true

/-- A declared filter without a callback, for a field that a record can name. -/
structure IsPlain (declared : String × CustomFilter) : Prop where
  noCallback : declared.2.callback = none
  named : ∃ name, field declared = .str name ∧ Text.strip name ≠ Clause.searchSlot

def AsksOfBlank (context : Context) (model : Model) (request : Members)
    (declared : String × CustomFilter) : Prop :=
  fault? (outcome context model request declared) = none ∧
    ((Compose.condition? (outcome context model request declared)).isSome = true ↔
      ConstrainsBlank context model request declared)

/-- Two computations have the same fault and the same condition, if any. -/
def EndsLike (first second : Outcome (Option Condition)) : Prop :=
  fault? first = fault? second ∧ Compose.condition? first = Compose.condition? second

section Records

variable {context : Context} {model : Model} {request : Members}
  {declared : String × CustomFilter} {mode : MatchMode} {name : String}

theorem clause?_of_null (null : request.value declared.1 = .null) :
    clause? request declared = none := by
  simp [clause?, record?, null]

theorem clause?_of_unknown (unknown : kinds.lookup declared.2.kind = none) :
    clause? request declared = none := by
  unfold clause? record?
  split
  · rfl
  · rw [unknown]
    rfl

theorem ofRecord?_of_mode (field value : Value) :
    Clause.ofRecord? (.object [("field", field), ("operator", .str mode.name), ("value", value)]) =
      Clause.ofTriple? field (.str mode.name) value := by
  have operator : (Value.str mode.name).orElse .null = .str mode.name := by
    cases mode <;> rfl
  simp [Clause.ofRecord?, Members.value, Members.value?, List.lookup_cons, operator]

theorem clause?_of_known (known : kinds.lookup declared.2.kind = some mode)
    (given : request.value declared.1 ≠ .null) (named : field declared = .str name) :
    clause? request declared =
      if (Text.strip name).isEmpty ∨ Text.strip name = Clause.searchSlot ∨
          (request.value declared.1).isBlank then none
      else some ⟨Text.strip name, mode.name, request.value declared.1⟩ := by
  have record : record? request declared = some (.object [("field", .str name),
      ("operator", .str mode.name), ("value", request.value declared.1)]) := by
    simp [record?, known, named]
  have operator : ((Value.str mode.name).orElse (.str MatchMode.equals.name)).text =
      .ok mode.name := by
    cases mode <;> rfl
  rw [clause?, record, Option.bind_some, ofRecord?_of_mode, Clause.ofTriple?, operator]
  split <;> rfl

theorem ofRecord?_of_record? {record : Value} (recorded : record? request declared = some record) :
    Clause.ofRecord? record = .ok (clause? request declared) := by
  have readable : ∃ clause?, Clause.ofRecord? record = .ok clause? := by
    unfold record? at recorded
    split at recorded
    · simp at recorded
    obtain ⟨mode, -, rfl⟩ := Option.map_eq_some_iff.mp recorded
    rw [ofRecord?_of_mode]
    cases read : Clause.ofTriple? (field declared) (.str mode.name) (request.value declared.1) with
    | ok clause => exact ⟨clause, rfl⟩
    | error failure => cases (Clause.ofTriple?_eq_error_iff.mp read).1.holdsHuge
  obtain ⟨clause, read⟩ := readable
  rw [clause?, recorded, Option.bind_some, read]
  rfl

theorem mem_of_known (known : kinds.lookup declared.2.kind = some mode) :
    mode ∈ kinds.map (·.2) := by
  obtain ⟨before, after, same, -⟩ := List.lookup_eq_some_iff.mp known
  rw [same]
  simp

theorem asks_of_unknown (unknown : kinds.lookup declared.2.kind = none) :
    Filter.Asks (outcome context model request declared) false := by
  by_cases null : request.value declared.1 = .null
  · rw [outcome_of_null null]
    exact Filter.asks_ok none
  · rw [outcome_of_ne_null null, compile, unknown]
    exact Filter.asks_reject _

theorem asks_of_unresolved {error : QueryError}
    (unresolved : FieldPath.resolve context.registry context.options model (field declared) =
      reject error) : Filter.Asks (outcome context model request declared) false := by
  by_cases null : request.value declared.1 = .null
  · rw [outcome_of_null null]
    exact Filter.asks_ok none
  · rw [outcome_of_ne_null null, compile]
    split
    · exact Filter.asks_reject _
    · split
      · exact Filter.asks_ok none
      · rw [← field, unresolved]
        exact Filter.asks_reject _

theorem not_constrainsBlank_of_unknown (unknown : kinds.lookup declared.2.kind = none) :
    ¬ ConstrainsBlank context model request declared := by
  rintro ⟨-, mode, -, known, -⟩
  simp [unknown] at known

theorem not_constrainsBlank_of_unresolved {error : QueryError}
    (unresolved : FieldPath.resolve context.registry context.options model (field declared) =
      reject error) : ¬ ConstrainsBlank context model request declared := by
  rintro ⟨-, -, path, -, resolved, -⟩
  simp [unresolved, reject] at resolved

theorem asksOfBlank_of_asks {constrains : Bool}
    (asks : Filter.Asks (outcome context model request declared) constrains)
    (whether : constrains = true ↔ ConstrainsBlank context model request declared) :
    AsksOfBlank context model request declared := by
  refine ⟨asks.1, ?_⟩
  rw [asks.2]
  exact whether

theorem asksOfBlank_of_blank (named : field declared = .str name)
    (blank : (request.value declared.1).isBlank = true) :
    AsksOfBlank context model request declared := by
  by_cases null : request.value declared.1 = .null
  · apply asksOfBlank_of_asks (outcome_of_null null ▸ Filter.asks_ok none)
    simp [ConstrainsBlank, null, Filter.constrainsBlank]
  cases known : kinds.lookup declared.2.kind with
  | none =>
      apply asksOfBlank_of_asks (asks_of_unknown known)
      simp [not_constrainsBlank_of_unknown known]
  | some mode =>
      rcases FieldPath.resolve_str_cases context.registry context.options model name with
        ⟨error, unresolved⟩ | ⟨path, resolved⟩
      · rw [← named] at unresolved
        apply asksOfBlank_of_asks (asks_of_unresolved unresolved)
        simp [not_constrainsBlank_of_unresolved unresolved]
      · rw [← named] at resolved
        have asks : Filter.Asks (outcome context model request declared)
            (Filter.constrainsBlank mode path.field.column.kind (request.value declared.1)) := by
          rw [outcome_of_ne_null null, compile, known]
          dsimp only
          split
          · next noPair =>
              rw [noPair.1, Filter.constrainsBlank_between]
              exact Filter.asks_ok none
          · rw [← field, resolved]
            exact Filter.asks_compile (Filter.asks_build_blank (mem_of_known known) blank null)
        apply asksOfBlank_of_asks asks
        simp [ConstrainsBlank, resolved, known, blank]

theorem rangeOf_of_not_isPair {column : Field} {value : Value} (noPair : isPair value = false) :
    Filter.rangeOf column value = Coercion.refuse column.column.label .range := by
  unfold Filter.rangeOf
  split
  · simp [isPair] at noPair
  · simp [isPair] at noPair
  · rfl

theorem asks_range_of_not_isPair {path : FieldPath} {value : Value}
    (noPair : isPair value = false) : Filter.Asks (Filter.compile path .between value) false := by
  apply Filter.asks_compile
  rw [Filter.build, rangeOf_of_not_isPair noPair]
  exact Filter.asks_reject _

theorem endsLike_of_asks_nothing {first second : Outcome (Option Condition)}
    (asks : Filter.Asks first false) (alsoAsks : Filter.Asks second false) :
    EndsLike first second := by
  refine ⟨asks.1.trans alsoAsks.1.symm, ?_⟩
  have nothing := asks.2
  have alsoNothing := alsoAsks.2
  rw [Option.isSome_eq_false_iff, Option.isNone_iff_eq_none] at nothing alsoNothing
  rw [nothing, alsoNothing]

variable (context model) in
/-- A declared filter whose record gives a clause is compiled as that clause. -/
theorem endsLike_clause (plain : IsPlain declared) {clause : FilterClause}
    (found : clause? request declared = some clause) :
    EndsLike (outcome context model request declared)
      (Compose.compileClause context model clause) := by
  obtain ⟨name, named, -⟩ := plain.named
  by_cases null : request.value declared.1 = .null
  · simp [clause?_of_null null] at found
  cases known : kinds.lookup declared.2.kind with
  | none => simp [clause?_of_unknown known] at found
  | some mode =>
      rw [clause?_of_known known null named] at found
      split at found
      · simp at found
      obtain rfl : _ = clause := by simpa using found
      rcases FieldPath.resolve_str_cases context.registry context.options model name with
        ⟨error, unresolved⟩ | ⟨path, resolved⟩
      · apply endsLike_of_asks_nothing (asks_of_unresolved (named ▸ unresolved))
        rw [Compose.compileClause, FieldPath.resolve_strip, unresolved]
        exact Filter.asks_reject _
      · have compiled : Compose.compileClause context model
            ⟨Text.strip name, mode.name, request.value declared.1⟩ =
            Filter.compile path mode (request.value declared.1) := by
          simp only [Compose.compileClause, FieldPath.resolve_strip, resolved,
            Filter.compileRaw, MatchMode.read_name, bind, Except.bind]
        rw [compiled, outcome_of_ne_null null, compile, known]
        dsimp only
        split
        · next noPair =>
            -- A range without two bounds is passed over here and refused there.
            obtain ⟨rfl, noPair⟩ := noPair
            apply endsLike_of_asks_nothing (Filter.asks_ok none)
            exact asks_range_of_not_isPair (by simpa using noPair)
        · rw [← field, named, resolved]
          exact ⟨rfl, rfl⟩

variable (context model) in
/-- A declared filter whose record gives no clause asks for nothing, unless its value is blank and
its column takes it. -/
theorem asksOfBlank_of_no_clause (plain : IsPlain declared)
    (noClause : clause? request declared = none) :
    AsksOfBlank context model request declared := by
  obtain ⟨name, named, unreserved⟩ := plain.named
  by_cases blank : (request.value declared.1).isBlank = true
  · exact asksOfBlank_of_blank named blank
  have null : request.value declared.1 ≠ .null := by
    intro null
    simp [null, Value.isBlank] at blank
  -- What is left is an unknown kind, or a name that is blank: the slot of the search is excluded.
  cases known : kinds.lookup declared.2.kind with
  | none =>
      apply asksOfBlank_of_asks (asks_of_unknown known)
      simp [not_constrainsBlank_of_unknown known]
  | some mode =>
      have noName : (Text.strip name).isEmpty = true := by
        rw [clause?_of_known known null named] at noClause
        by_contra given
        simp [given, unreserved, blank] at noClause
      have unresolved : FieldPath.resolve context.registry context.options model (field declared) =
          reject (.field .empty (Text.strip name)) := by
        rw [named, FieldPath.resolve_of_no_name noName]
      apply asksOfBlank_of_asks (asks_of_unresolved unresolved)
      simp [not_constrainsBlank_of_unresolved unresolved]

theorem not_isBlank_of_clause (plain : IsPlain declared) {clause : FilterClause}
    (found : clause? request declared = some clause) :
    (request.value declared.1).isBlank = false := by
  obtain ⟨name, named, -⟩ := plain.named
  by_contra blank
  rw [Bool.not_eq_false] at blank
  by_cases null : request.value declared.1 = .null
  · simp [clause?_of_null null] at found
  cases known : kinds.lookup declared.2.kind with
  | none => simp [clause?_of_unknown known] at found
  | some mode =>
      rw [clause?_of_known known null named] at found
      simp [blank] at found

def recordedCondition? (context : Context) (model : Model) (request : Members)
    (declared : String × CustomFilter) : Option Condition :=
  (clause? request declared).bind fun clause =>
    Compose.condition? (Compose.compileClause context model clause)

theorem fault?_outcome (plain : IsPlain declared) :
    fault? (outcome context model request declared) =
      (clause? request declared).bind fun clause =>
        fault? (Compose.compileClause context model clause) := by
  cases found : clause? request declared with
  | some clause =>
      rw [Option.bind_some, (endsLike_clause context model plain found).1]
  | none =>
      rw [Option.bind_none, (asksOfBlank_of_no_clause context model plain found).1]

theorem recordedCondition?_eq_or (plain : IsPlain declared) :
    recordedCondition? context model request declared =
        Compose.condition? (outcome context model request declared) ∨
      recordedCondition? context model request declared = none := by
  unfold recordedCondition?
  cases found : clause? request declared with
  | some clause =>
      rw [Option.bind_some]
      exact .inl (endsLike_clause context model plain found).2.symm
  | none => exact .inr rfl

theorem recordedCondition?_eq_iff (plain : IsPlain declared) :
    recordedCondition? context model request declared =
        Compose.condition? (outcome context model request declared) ↔
      ¬ ConstrainsBlank context model request declared := by
  unfold recordedCondition?
  cases found : clause? request declared with
  | some clause =>
      have notBlank : ¬ ConstrainsBlank context model request declared := by
        rintro ⟨blank, -⟩
        simp [not_isBlank_of_clause plain found] at blank
      rw [Option.bind_some, (endsLike_clause context model plain found).2]
      simp [notBlank]
  | none =>
      rw [Option.bind_none, ← (asksOfBlank_of_no_clause context model plain found).2]
      cases Compose.condition? (outcome context model request declared) <;> simp

end Records

def records (request : Members) (filters : List (String × CustomFilter)) : Value :=
  .list (filters.filterMap (record? request))

/-- The query that a client would get for the records of declared filters. -/
def recorded (context : Context) (query : Query) (request : Members)
    (filters : List (String × CustomFilter)) : Outcome Query := do
  let clauses ← Clause.filters (records request filters)
  Prod.fst <$> Compose.filters context query clauses

section Main

variable {context : Context} {query : Query} {request : Members}
  {filters : List (String × CustomFilter)} (tolerant : context.options.strict = false)

theorem filters_records :
    Clause.filters (records request filters) = .ok (filters.filterMap (clause? request)) := by
  show Clause.ofEntries Clause.ofRecord? (filters.filterMap (record? request)) = _
  induction filters with
  | nil => rfl
  | cons declared rest inductionHypothesis =>
      rw [List.filterMap_cons, List.filterMap_cons]
      cases recorded : record? request declared with
      | none => simpa [clause?, recorded] using inductionHypothesis
      | some record =>
          dsimp only
          rw [Clause.ofEntries_cons, ofRecord?_of_record? recorded, inductionHypothesis]
          cases clause? request declared <;> rfl

include tolerant

theorem recorded_of_tolerant (plain : ∀ declared ∈ filters, IsPlain declared) :
    recorded context query request filters =
      match filters.findSome? fun declared =>
        fault? (outcome context query.model request declared) with
      | some fault => giveUp fault
      | none => .ok (query.restrictAll
          (filters.filterMap (recordedCondition? context query.model request))) := by
  have sameFault : ((filters.filterMap (clause? request)).findSome? fun clause =>
      fault? (Compose.compileClause context query.model clause)) =
      filters.findSome? fun declared =>
        fault? (outcome context query.model request declared) := by
    rw [← List.head?_filterMap, ← List.head?_filterMap, List.filterMap_filterMap]
    congr 1
    apply List.filterMap_congr
    intro declared member
    exact (fault?_outcome (plain declared member)).symm
  rw [recorded, filters_records]
  show Prod.fst <$> Compose.filters context query _ = _
  rw [Compose.filters_of_tolerant tolerant, sameFault, List.filterMap_filterMap]
  rfl

theorem apply_eq_recorded (plain : ∀ declared ∈ filters, IsPlain declared) :
    apply context query request filters = recorded context query request filters ↔
      (∃ fault, apply context query request filters = giveUp fault) ∨
        ∀ declared ∈ filters, ¬ ConstrainsBlank context query.model request declared := by
  have noCallbacks : ∀ declared ∈ filters, declared.2.callback = none :=
    fun declared member => (plain declared member).noCallback
  rw [apply_of_tolerant tolerant noCallbacks, recorded_of_tolerant tolerant plain]
  cases filters.findSome? fun declared =>
      fault? (outcome context query.model request declared) with
  | some fault => simp
  | none =>
      have sameConditions :
          filters.filterMap (fun declared =>
              Compose.condition? (outcome context query.model request declared)) =
            filters.filterMap (recordedCondition? context query.model request) ↔
          ∀ declared ∈ filters, recordedCondition? context query.model request declared =
            Compose.condition? (outcome context query.model request declared) :=
        filterMap_eq_filterMap_iff fun declared member =>
          recordedCondition?_eq_or (plain declared member)
      simp only [Except.ok.injEq, Query.restrictAll_inj, sameConditions, giveUp, reduceCtorEq,
        exists_false, false_or]
      exact forall₂_congr fun declared member => recordedCondition?_eq_iff (plain declared member)

theorem apply_of_refused {before after : List (String × CustomFilter)}
    {declared : String × CustomFilter} {error : QueryError}
    (plain : ∀ other ∈ before ++ declared :: after, IsPlain other)
    (refused : outcome context query.model request declared = reject error) :
    apply context query request (before ++ declared :: after) =
      apply context query request (before ++ after) := by
  have noCallbacks : ∀ other ∈ before ++ declared :: after, other.2.callback = none :=
    fun other member => (plain other member).noCallback
  have othersPlain : ∀ other ∈ before ++ after, other.2.callback = none := by
    intro other member
    apply noCallbacks other
    simp only [List.mem_append, List.mem_cons] at member ⊢
    exact member.imp_right .inr
  have nothing : Compose.condition? (reject error : Outcome (Option Condition)) = none := rfl
  rw [apply_of_tolerant tolerant noCallbacks, apply_of_tolerant tolerant othersPlain,
    List.findSome?_append, List.findSome?_append, List.findSome?_cons, List.filterMap_append,
    List.filterMap_append, List.filterMap_cons, refused, nothing, fault?_reject]

/-- Declared filters give the query of their records exactly if a fault ends the work or no column
takes a blank value; and a declared filter that is refused is as if it were not there. -/
theorem apply_eq_recorded_iff (plain : ∀ declared ∈ filters, IsPlain declared) :
    (apply context query request filters = recorded context query request filters ↔
      (∃ fault, apply context query request filters = giveUp fault) ∨
        ∀ declared ∈ filters, ¬ ConstrainsBlank context query.model request declared) ∧
    ∀ before declared after error, filters = before ++ declared :: after →
      outcome context query.model request declared = reject error →
      apply context query request filters = apply context query request (before ++ after) := by
  refine ⟨apply_eq_recorded tolerant plain, ?_⟩
  rintro before declared after error rfl refused
  exact apply_of_refused tolerant plain refused

end Main

/-- Posts are filtered by a list of states, by a day, by an empty text for a column of integers and
by a range with one bound: the records ask for the same. -/
theorem apply_eq_recorded_iff_posts :
    let context : Context := ⟨.ofSchema Sample.schema, {}, {}⟩
    let query : Query := ⟨Sample.post, [], []⟩
    let declared : List (String × CustomFilter) := [
      ("status", ⟨"whereIn", .null, none⟩),
      ("day", ⟨"whereDate", .str "created_at", none⟩),
      ("views", ⟨"where", .null, none⟩),
      ("rating", ⟨"whereBetween", .null, none⟩)]
    let asked : Members := [("status", .list [.str "draft", .str "published"]),
      ("day", .str "2026-01-05"), ("views", .str ""), ("rating", .list [.int 1])]
    apply context query asked declared = recorded context query asked declared := by
  intro context query declared asked
  have plain : ∀ filter ∈ declared, IsPlain filter := by
    simp only [declared, List.forall_mem_cons, List.not_mem_nil, IsEmpty.forall_iff, implies_true,
      and_true]
    exact ⟨⟨rfl, _, rfl, by decide +kernel⟩, ⟨rfl, _, rfl, by decide +kernel⟩,
      ⟨rfl, _, rfl, by decide +kernel⟩, ⟨rfl, _, rfl, by decide +kernel⟩⟩
  have views : ¬ ConstrainsBlank context Sample.post asked ("views", ⟨"where", .null, none⟩) := by
    rintro ⟨-, mode, path, known, resolved, constrains⟩
    have equals : kinds.lookup "where" = some .equals := by decide +kernel
    have integers : FieldPath.resolve context.registry context.options Sample.post (.str "views") =
        .ok ⟨"views", [], ⟨"posts", Sample.column "views" .integer⟩⟩ := by decide +kernel
    obtain rfl := Option.some.inj (equals.symm.trans known)
    obtain rfl := Except.ok.inj (integers.symm.trans resolved)
    exact absurd constrains (by decide +kernel)
  have noBlank : ∀ filter ∈ declared, ¬ ConstrainsBlank context Sample.post asked filter := by
    simp only [declared, List.forall_mem_cons, List.not_mem_nil, IsEmpty.forall_iff, implies_true,
      and_true]
    refine ⟨?_, ?_, views, ?_⟩
    · exact fun constrains => absurd constrains.1 (by decide +kernel)
    · exact fun constrains => absurd constrains.1 (by decide +kernel)
    · exact fun constrains => absurd constrains.1 (by decide +kernel)
  exact (apply_eq_recorded_iff rfl plain).1.mpr (.inr noBlank)

/-- An empty state is compared with the state of every post, while its record asks for nothing. -/
theorem apply_ne_recorded_posts :
    let context : Context := ⟨.ofSchema Sample.schema, {}, {}⟩
    let query : Query := ⟨Sample.post, [], []⟩
    let declared : List (String × CustomFilter) := [("status", {})]
    let asked : Members := [("status", .str "")]
    (apply context query asked declared >>= Store.count Sample.database) = .ok 0 ∧
      (recorded context query asked declared >>= Store.count Sample.database) = .ok 5 := by
  decide +kernel

end CustomFilter

end GridQuery
