import GridQuery.Proofs.DayModes
import GridQuery.Proofs.OrderModes

/-!
Ranges and the days at their upper ends.  A range is its lower bound by `gte`
and its upper bound by `lt` or `equals`; this holds of a day as well, since a
range up to a day includes all of its moments.
-/

namespace GridQuery

open Store MatchMode Coercion

namespace Filter

section Days

variable {database : Database} {environment : Environment} {field : Field} {raw : Value}

theorem fits_moment (moments : field.column.kind = .moment) (time : Moment) :
    Fits field.column.kind (.moment time) :=
  ⟨congrArg some moments.symm, rfl⟩

theorem wall_lt_of_dayAfter {start stop : Moment} (following : dayAfter start = .ok stop) :
    start.wall < stop.wall := by
  obtain ⟨date, next, rfl⟩ := exists_of_dayAfter following
  exact Prod.Lex.toLex_lt_toLex.mpr (.inl (Date.covBy_of_next? next).lt)

theorem orderOf_moment (moments : field.column.kind = .moment) (time : Moment) :
    orderOf environment field (.moment time) =
      Cell.order (environment.cell field) (.text (Parameter.momentText time)) := by
  rw [orderOf, moments, ← Cell.read_momentText time]
  rfl

theorem orderOf_eq_lt_of_wall_lt {start stop : Moment} (moments : field.column.kind = .moment)
    (later : start.wall < stop.wall) (below : orderOf environment field (.moment start) = .lt) :
    orderOf environment field (.moment stop) = .lt := by
  have bounds := Cell.order_momentText start stop
  rw [compare_lt_iff_lt.mpr later, (Cell.order_compares _ _).eq_lt] at bounds
  rw [orderOf_moment moments, (Cell.order_compares _ _).eq_lt] at below ⊢
  exact below.trans bounds

theorem holds_span_iff {first after : Value} (given : environment.cell field ≠ .null)
    (firstFits : Fits field.column.kind first) (afterFits : Fits field.column.kind after) :
    holds database environment (.span field false first after) = true ↔
      orderOf environment field first ≠ .lt ∧ orderOf environment field after = .lt := by
  simp only [holds, truth, Truth.negateIf, Bool.false_eq_true, if_false, Truth.isTrue_and,
    Bool.and_eq_true, compareWith_eq given firstFits, compareWith_eq given afterFits]
  simp [Truth.isTrue, Comparison.test, orderOf]

/-- A whole day that `equals` takes is the span from a moment to the same time of the next day. -/
theorem exists_bounds_of_coversDay (day : coversDay field raw = true)
    (compiles : Compiles field .equals raw) :
    ∃ start stop, field.column.kind = .moment ∧ scalar field raw = .ok (.moment start) ∧
      dayAfter start = .ok stop ∧
      build field .equals raw = .ok (some (.span field false (.moment start) (.moment stop))) := by
  obtain ⟨moments, -⟩ : field.column.kind = .moment ∧ namesDay raw = true := by
    simpa [coversDay, holdsMoments] using day
  obtain ⟨value, reads⟩ := exists_of_compiles_equals compiles
  have coerced := coerce_of_scalar reads
  rw [coerce, moments] at coerced
  obtain ⟨start, rfl⟩ := exists_of_map_eq_ok coerced
  have spanned : build field .equals raw = some <$> daySpan field false start := by
    rw [build, equal, reads]
    exact congrArg (some <$> ·) (if_pos day)
  obtain ⟨condition, compared⟩ := exists_of_compiles spanned compiles
  obtain ⟨stop, following, -⟩ := bind_eq_ok_iff.mp compared
  refine ⟨start, stop, moments, reads, following, ?_⟩
  rw [spanned, daySpan, following]
  rfl

end Days

section Ranges

variable {database : Database} {environment : Environment} {field : Field} {low high value : Value}

theorem exists_lowest (known : field.column.kind.isCoerced = true)
    (lower : isGiven low = true → Compiles field .gte low ∧ IsKept field low) :
    ∃ lowest, bound? field low = .ok lowest ∧
      (∀ bound ∈ lowest, Fits field.column.kind bound ∧ isConstant bound = false) ∧
      ∀ (database : Database) (environment : Environment), environment.cell field ≠ .null →
        ((isGiven low = true → Selects database environment field .gte low) ↔
          ∀ bound ∈ lowest, orderOf environment field bound ≠ .lt) := by
  by_cases lowGiven : isGiven low = true
  · obtain ⟨compiles, kept⟩ := lower lowGiven
    obtain ⟨bound, reads, placed, fits⟩ := exists_fits_of_compiles rfl known compiles kept
    have coerced : bound? field low = .ok (some bound) :=
      bound?_eq_some_iff.mpr ⟨lowGiven, coerce_of_scalar reads⟩
    refine ⟨some bound, coerced, by simp [fits, placed], ?_⟩
    intro database environment given
    rw [selects_byOrder_iff rfl reads placed given fits]
    simp [lowGiven, Comparison.test]
  · rw [Bool.not_eq_true] at lowGiven
    exact ⟨none, bound?_eq_none_iff.mpr lowGiven, by simp, by simp [lowGiven]⟩

theorem exists_highest (known : field.column.kind.isCoerced = true)
    (upper : isGiven high = true →
      Compiles field .lt high ∧ Compiles field .equals high ∧ IsKept field high)
    (single : coversDay field high = false) :
    ∃ highest, bound? field high = .ok highest ∧
      (∀ bound ∈ highest, Fits field.column.kind bound ∧ isConstant bound = false) ∧
      ∀ (database : Database) (environment : Environment), environment.cell field ≠ .null →
        ((isGiven high = true → Selects database environment field .lt high ∨
            Selects database environment field .equals high) ↔
          ∀ bound ∈ highest, orderOf environment field bound ≠ .gt) := by
  by_cases highGiven : isGiven high = true
  · obtain ⟨compiles, -, kept⟩ := upper highGiven
    obtain ⟨bound, reads, placed, fits⟩ := exists_fits_of_compiles rfl known compiles kept
    have coerced : bound? field high = .ok (some bound) :=
      bound?_eq_some_iff.mpr ⟨highGiven, coerce_of_scalar reads⟩
    refine ⟨some bound, coerced, by simp [fits, placed], ?_⟩
    intro database environment given
    rw [selects_byOrder_iff rfl reads placed given fits,
      selects_equals_iff single reads given fits]
    simp only [highGiven, forall_const, Option.mem_some_iff, forall_eq']
    generalize orderOf environment field bound = order
    cases order <;> decide
  · rw [Bool.not_eq_true] at highGiven
    exact ⟨none, bound?_eq_none_iff.mpr highGiven, by simp, by simp [highGiven]⟩

/-- A range between bounds, each of which may be missing, lets the cells between them through. -/
theorem exists_closedRange {lowest highest : Option Value}
    (lowestFits : ∀ bound ∈ lowest, Fits field.column.kind bound ∧ isConstant bound = false)
    (highestFits : ∀ bound ∈ highest, Fits field.column.kind bound ∧ isConstant bound = false) :
    ∃ condition?, closedRange field lowest highest = .ok condition? ∧
      ∀ (database : Database) (environment : Environment), environment.cell field ≠ .null →
        ((∀ condition ∈ condition?, holds database environment condition = true) ↔
          (∀ bound ∈ lowest, orderOf environment field bound ≠ .lt) ∧
            ∀ bound ∈ highest, orderOf environment field bound ≠ .gt) := by
  cases lowest with
  | none =>
      cases highest with
      | none => exact ⟨none, rfl, by simp⟩
      | some highest =>
          obtain ⟨fits, placed⟩ := highestFits highest rfl
          refine ⟨some (.compare field .le highest), ?_, fun database environment given => ?_⟩
          · rw [closedRange, ordered_eq placed]
            rfl
          · simp [holds_compare_iff given fits, Comparison.test]
  | some lowest =>
      obtain ⟨fits, placed⟩ := lowestFits lowest rfl
      cases highest with
      | none =>
          refine ⟨some (.compare field .ge lowest), ?_, fun database environment given => ?_⟩
          · rw [closedRange, ordered_eq placed]
            rfl
          · simp [holds_compare_iff given fits, Comparison.test]
      | some highest =>
          obtain ⟨highestFits, -⟩ := highestFits highest rfl
          refine ⟨some (.between field lowest highest), rfl, fun database environment given => ?_⟩
          simp only [Option.mem_some_iff, forall_eq', holds, truth, compareWith_eq given fits,
            compareWith_eq given highestFits, Truth.isTrue_and, Bool.and_eq_true]
          simp [Truth.isTrue, Comparison.test, orderOf]

theorem range_of_not_coversDay {lowest highest : Option Value}
    (lower : bound? field low = .ok lowest) (upper : bound? field high = .ok highest)
    (single : coversDay field high = false) :
    range field low high = closedRange field lowest highest := by
  have noDay : ¬ (holdsMoments field && namesDay high) = true := by simpa [coversDay] using single
  simp only [range, lower, upper, bind, Except.bind]
  split
  · exact if_neg noDay
  · rfl

theorem exists_range_of_coversDay {lowest : Option Value} (lower : bound? field low = .ok lowest)
    (lowestFits : ∀ bound ∈ lowest, Fits field.column.kind bound ∧ isConstant bound = false)
    (upper : Compiles field .lt high ∧ Compiles field .equals high)
    (day : coversDay field high = true) :
    ∃ condition, range field low high = .ok (some condition) ∧
      ∀ (database : Database) (environment : Environment), environment.cell field ≠ .null →
        (holds database environment condition = true ↔
          (∀ bound ∈ lowest, orderOf environment field bound ≠ .lt) ∧
            (Selects database environment field .lt high ∨
              Selects database environment field .equals high)) := by
  obtain ⟨start, stop, moments, reads, following, equals⟩ :=
    exists_bounds_of_coversDay day upper.2
  have startFits := fits_moment moments start
  have stopFits := fits_moment moments stop
  have coerced : bound? field high = .ok (some (.moment start)) :=
    bound?_eq_some_iff.mpr ⟨isGiven_of_namesDay (Bool.and_eq_true_iff.mp day).2,
      coerce_of_scalar reads⟩
  have upTo {database : Database} {environment : Environment}
      (given : environment.cell field ≠ .null) :
      (Selects database environment field .lt high ∨
        Selects database environment field .equals high) ↔
        orderOf environment field (.moment stop) = .lt := by
    rw [selects_byOrder_iff rfl reads rfl given startFits, selects_iff_holds equals,
      holds_span_iff given startFits stopFits]
    have later : orderOf environment field (.moment start) = .lt →
        orderOf environment field (.moment stop) = .lt :=
      orderOf_eq_lt_of_wall_lt moments (wall_lt_of_dayAfter following)
    by_cases below : orderOf environment field (.moment start) = .lt
    · simp [below, later below, Comparison.test]
    · simp [below, Comparison.test]
  have ranged : range field low high = match lowest with
      | none => .ok (some (.compare field .lt (.moment stop)))
      | some bound => .ok (some (.span field false bound (.moment stop))) := by
    have whole : (holdsMoments field && namesDay high) = true := day
    simp only [range, lower, coerced, bind, Except.bind, whole, if_true, following]
    cases lowest <;> rfl
  cases lowest with
  | none =>
      refine ⟨_, ranged, fun database environment given => ?_⟩
      rw [holds_compare_iff given stopFits, upTo given]
      simp [Comparison.test]
  | some bound =>
      obtain ⟨fits, -⟩ := lowestFits bound rfl
      refine ⟨_, ranged, fun database environment given => ?_⟩
      rw [holds_span_iff given fits stopFits, upTo given]
      simp

/-- A range lets through what `gte` does for its lower bound, and `lt` or `equals` for its upper
one; a bound that is not given is no constraint. -/
theorem selects_between_iff (known : field.column.kind.isCoerced = true)
    (pair : pair? value = some (low, high))
    (lower : isGiven low = true → Compiles field .gte low ∧ IsKept field low)
    (upper : isGiven high = true →
      Compiles field .lt high ∧ Compiles field .equals high ∧ IsKept field high)
    (given : environment.cell field ≠ .null) :
    Selects database environment field .between value ↔
      (isGiven low = true → Selects database environment field .gte low) ∧
        (isGiven high = true → Selects database environment field .lt high ∨
          Selects database environment field .equals high) := by
  have ranged : build field .between value = range field low high := (rangeOf_of_pair pair).1
  obtain ⟨lowest, readLowest, lowestFits, sameLower⟩ := exists_lowest known lower
  rw [sameLower database environment given]
  by_cases day : coversDay field high = true
  · have highGiven : isGiven high = true := isGiven_of_namesDay (Bool.and_eq_true_iff.mp day).2
    obtain ⟨compilesLt, compilesEquals, -⟩ := upper highGiven
    obtain ⟨condition, built, sameRange⟩ :=
      exists_range_of_coversDay readLowest lowestFits ⟨compilesLt, compilesEquals⟩ day
    rw [selects_iff_holds (ranged.trans built), sameRange database environment given]
    simp only [highGiven, forall_const]
  · rw [Bool.not_eq_true] at day
    obtain ⟨highest, readHighest, highestFits, sameUpper⟩ := exists_highest known upper day
    obtain ⟨condition?, closed, sameRange⟩ := exists_closedRange lowestFits highestFits
    have built : build field .between value = .ok condition? := by
      rw [ranged, range_of_not_coversDay readLowest readHighest day, closed]
    rw [sameUpper database environment given, ← sameRange database environment given]
    simp [Selects, built]

end Ranges

end Filter

end GridQuery
