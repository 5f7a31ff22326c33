import GridQuery.FieldPath

/-!
Opening computations that may be refused.  A sequence has a result exactly when
each of its parts has one, and so does a computation on every item of a list.
-/

namespace GridQuery

theorem bind_eq_ok_iff {Error Alpha Beta : Type} {first : Except Error Alpha}
    {second : Alpha → Except Error Beta} {result : Beta} :
    (first >>= second) = .ok result ↔
      ∃ intermediate, first = .ok intermediate ∧ second intermediate = .ok result := by
  cases first with
  | error failure => simp [bind, Except.bind]
  | ok intermediate => simp [bind, Except.bind]

theorem bind_eq_error_iff {Error Alpha Beta : Type} {first : Except Error Alpha}
    {second : Alpha → Except Error Beta} {failure : Error} :
    (first >>= second) = .error failure ↔
      first = .error failure ∨
        ∃ intermediate, first = .ok intermediate ∧ second intermediate = .error failure := by
  cases first with
  | error failure => simp [bind, Except.bind]
  | ok intermediate => simp [bind, Except.bind]

theorem mapError_ok {Error Other Alpha : Type} (form : Error → Other) (result : Alpha) :
    (Except.ok result).mapError form = .ok result := rfl

theorem mapError_error {Error Other Alpha : Type} (form : Error → Other) (error : Error) :
    (Except.error error : Except Error Alpha).mapError form = .error (form error) := rfl

theorem mapError_eq_error_iff {Error Other Alpha : Type} {outcome : Except Error Alpha}
    {form : Error → Other} {failure : Other} :
    outcome.mapError form = .error failure ↔
      ∃ error, outcome = .error error ∧ form error = failure := by
  cases outcome with
  | error error => simp [mapError_error]
  | ok result => simp [mapError_ok]

theorem bind_eq_bind_of_map_eq {Error Alpha Beta Gamma : Type} {first second : Except Error Alpha}
    {form : Alpha → Beta} (same : first.map form = second.map form)
    {later otherLater : Alpha → Except Error Gamma}
    (sameLater : ∀ result other, form result = form other → later result = otherLater other) :
    (first >>= later) = (second >>= otherLater) := by
  rcases first with failure | result <;> rcases second with otherFailure | other
  · obtain rfl : failure = otherFailure := by simpa [Except.map] using same
    rfl
  · simp [Except.map] at same
  · simp [Except.map] at same
  · exact sameLater result other (by simpa [Except.map] using same)

theorem map_eq_ok_iff {Error Alpha Beta : Type} {form : Alpha → Beta}
    {outcome : Except Error Alpha} {result : Beta} :
    form <$> outcome = .ok result ↔
      ∃ computed, outcome = .ok computed ∧ form computed = result := by
  cases outcome with
  | error failure => simp [Functor.map, Except.map]
  | ok value => simp [Functor.map, Except.map]

theorem map_eq_error_iff {Error Alpha Beta : Type} {form : Alpha → Beta}
    {outcome : Except Error Alpha} {failure : Error} :
    form <$> outcome = .error failure ↔ outcome = .error failure := by
  cases outcome <;> simp [Functor.map, Except.map]

theorem map_some_eq_ok_iff {Error Alpha : Type} {outcome : Except Error Alpha} {result : Alpha} :
    some <$> outcome = .ok (some result) ↔ outcome = .ok result := by
  simp [map_eq_ok_iff]

@[simp] theorem ofChecked_eq_ok_iff {Alpha : Type} {checked : Except QueryError Alpha}
    {result : Alpha} : ofChecked checked = .ok result ↔ checked = .ok result := by
  cases checked with
  | error error => simp [ofChecked, reject]
  | ok value => simp [ofChecked]

@[simp] theorem ofChecked_eq_error_iff {Alpha : Type} {checked : Except QueryError Alpha}
    {failure : Failure} :
    ofChecked checked = .error failure ↔
      ∃ error, checked = .error error ∧ failure = .rejected error := by
  cases checked with
  | error error => simp [ofChecked, reject, eq_comm]
  | ok value => simp [ofChecked]

theorem ofChecked_eq_reject_iff {Alpha : Type} {checked : Except QueryError Alpha}
    {error : QueryError} : ofChecked checked = reject error ↔ checked = .error error := by
  cases checked <;> simp [ofChecked, reject]

@[simp] theorem QueryOptions.contain_eq_ok_ok_iff {Alpha : Type} {options : QueryOptions}
    {outcome : Outcome Alpha} {result : Alpha} :
    options.contain outcome = .ok (.ok result) ↔ outcome = .ok result := by
  rcases outcome with (error | fault) | kept
  · by_cases strict : options.strict <;> simp [contain, strict, reject]
  · simp [contain, giveUp]
  · simp [contain]

theorem exists_of_mem_mapM {Error Alpha Beta : Type} {compute : Alpha → Except Error Beta}
    {items : List Alpha} {results : List Beta} (computed : items.mapM compute = .ok results)
    {result : Beta} (member : result ∈ results) : ∃ item ∈ items, compute item = .ok result := by
  induction items generalizing results with
  | nil =>
      obtain rfl : [] = results := Except.ok.inj computed
      simp at member
  | cons item rest inductionHypothesis =>
      simp only [List.mapM_cons, bind_eq_ok_iff] at computed
      obtain ⟨first, computedFirst, others, computedOthers, shape⟩ := computed
      obtain rfl : first :: others = results := Except.ok.inj shape
      rcases List.mem_cons.mp member with rfl | inOthers
      · exact ⟨item, by simp, computedFirst⟩
      · obtain ⟨origin, inRest, same⟩ := inductionHypothesis computedOthers inOthers
        exact ⟨origin, List.mem_cons_of_mem item inRest, same⟩

/-- Where items fail in one way only, a list fails so if one of its items does. -/
theorem mapM_eq_error_iff {Error Alpha Beta : Type} {compute : Alpha → Except Error Beta}
    {bad : Alpha → Prop} {only : Error}
    (fails : ∀ item failure, compute item = .error failure ↔ bad item ∧ failure = only)
    {items : List Alpha} {failure : Error} :
    items.mapM compute = .error failure ↔ (∃ item ∈ items, bad item) ∧ failure = only := by
  induction items with
  | nil => simp [pure, Except.pure]
  | cons item rest inductionHypothesis =>
      simp only [List.mapM_cons, bind_eq_error_iff, fails, inductionHypothesis, pure, Except.pure,
        reduceCtorEq, and_false, exists_false, or_false, List.mem_cons, exists_eq_or_imp]
      rw [or_and_right]
      constructor
      · rintro (bad | ⟨result, -, later⟩)
        · exact .inl bad
        · exact .inr later
      · rintro (bad | ⟨later, rfl⟩)
        · exact .inl bad
        · cases here : compute item with
          | ok result => exact .inr ⟨result, rfl, later, rfl⟩
          | error failure => exact .inl ⟨((fails item failure).mp here).1, rfl⟩

/-- A computation gives good results for a whole list when it gives a good one for each item. -/
theorem exists_mapM_eq_some_iff {Alpha Beta : Type} {compute? : Alpha → Option Beta}
    {good : Beta → Prop} {items : List Alpha} :
    (∃ results, items.mapM compute? = some results ∧ ∀ result ∈ results, good result) ↔
      ∀ item ∈ items, ∃ result, compute? item = some result ∧ good result := by
  induction items with
  | nil => simp
  | cons item rest inductionHypothesis =>
      rw [List.forall_mem_cons, ← inductionHypothesis]
      simp only [List.mapM_cons, Option.bind_eq_bind, Option.bind_eq_some_iff, Option.pure_def,
        Option.some.injEq]
      constructor
      · rintro ⟨_, ⟨result, computed, others, othersComputed, rfl⟩, allGood⟩
        rw [List.forall_mem_cons] at allGood
        exact ⟨⟨result, computed, allGood.1⟩, others, othersComputed, allGood.2⟩
      · rintro ⟨⟨result, computed, isGood⟩, others, othersComputed, othersGood⟩
        exact ⟨_, ⟨result, computed, others, othersComputed, rfl⟩,
          List.forall_mem_cons.mpr ⟨isGood, othersGood⟩⟩

end GridQuery
