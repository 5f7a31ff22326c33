import GridQuery.Proofs.RowFilter
import GridQuery.Proofs.WholeDay
import GridQuery.Sample.Rows

/-!
Which rows the modes of days select.  A stored day or moment lies before, on or
after a requested day, and the mode of that place is the only one of the three
that selects its row.  Null lies nowhere, not even on another day.
-/

namespace GridQuery

/-- A stored cell of a column of days or moments lies on a day: its text is that of the day, or that
of a moment whose wall clock shows the day. -/
inductive Cell.OnDay : ColumnKind → Cell → Date → Prop
  | date (day : Date) : OnDay .date (.text day.isoText) day
  | moment (time : Moment) : OnDay .moment (.text (Store.Parameter.momentText time)) time.date

theorem Cell.onDay_date_iff {cell : Cell} {day : Date} :
    cell.OnDay .date day ↔ cell = .text day.isoText := by
  constructor
  · rintro ⟨⟩
    rfl
  · rintro rfl
    exact .date day

theorem Cell.onDay_moment_iff {cell : Cell} {day : Date} :
    cell.OnDay .moment day ↔
      ∃ time, cell = .text (Store.Parameter.momentText time) ∧ time.date = day := by
  constructor
  · rintro ⟨⟩
    exact ⟨_, rfl, rfl⟩
  · rintro ⟨time, rfl, rfl⟩
    exact .moment time

/-- The mode that selects what is before, on or after a day. -/
def MatchMode.ofDayOrder : Ordering → MatchMode
  | .lt => dateBefore
  | .eq => dateIs
  | .gt => dateAfter

def Filter.DayRelation.mode : DayRelation → MatchMode
  | .on => .dateIs
  | .notOn => .dateIsNot
  | .before => .dateBefore
  | .after => .dateAfter

/-- A stored day stands in a relation to a requested one. -/
def Filter.DayRelation.Relates (stored day : Date) : DayRelation → Prop
  | .on => stored = day
  | .notOn => stored ≠ day
  | .before => stored < day
  | .after => day < stored

section

variable {Item : Type} [LinearOrder Item] (item other : Item)

theorem Comparison.test_lt_iff : lt.test (compare item other) = true ↔ item < other := by
  rw [← compare_lt_iff_lt]
  exact beq_iff_eq

theorem Comparison.test_ge_iff : ge.test (compare item other) = true ↔ other ≤ item := by
  rw [← not_lt, ← compare_lt_iff_lt]
  exact bne_iff_ne

end

theorem Moment.wall_lt_startOf_iff (time : Moment) (day : Date) :
    time.wall < (startOf day).wall ↔ time.date < day := by
  rw [Prod.Lex.lt_iff]
  constructor
  · rintro (earlier | ⟨-, beforeMidnight⟩)
    · exact earlier
    · exact absurd beforeMidnight (not_lt.mpr (Clock.midnight_le time.clock))
  · exact Or.inl

namespace Store

theorem compareWith_moment (comparison : Comparison) (stored time : Moment) :
    compareWith .moment comparison (.text (Parameter.momentText stored)) (.moment time) =
      some (comparison.test (compare stored.wall time.wall)) := by
  have parameter : Parameter.ofValues? .moment [.moment time] =
      some [.ok (.text (Parameter.momentText time))] := rfl
  simp [compareWith, parameter, Parameter.cells, Except.toOption, affinityOf,
    Cell.read_momentText, compareCells, Cell.order?, Cell.order_momentText]

theorem compareWith_date (comparison : Comparison) (stored day : Date) :
    compareWith .date comparison (.text stored.isoText) (.date day) =
      some (comparison.test (compare stored day)) := by
  have parameter : Parameter.ofValues? .date [.date day] = some [.ok (.text day.isoText)] := rfl
  simp [compareWith, parameter, Parameter.cells, Except.toOption, affinityOf,
    Cell.read_isoText, compareCells, Cell.order?, Cell.order_isoText]

end Store

namespace Filter

open Store MatchMode Coercion

theorem mem_dayModes_iff {mode : MatchMode} :
    mode ∈ dayModes ↔ ∃ relation : DayRelation, relation.mode = mode := by
  constructor
  · intro inModes
    simp only [dayModes, List.mem_cons, List.not_mem_nil, or_false] at inModes
    rcases inModes with rfl | rfl | rfl | rfl
    · exact ⟨.on, rfl⟩
    · exact ⟨.notOn, rfl⟩
    · exact ⟨.before, rfl⟩
    · exact ⟨.after, rfl⟩
  · rintro ⟨relation, rfl⟩
    cases relation <;> decide

section

variable {database : Database} {environment : Environment} {field : Field} {value : Value}
  {day : Date}

theorem holds_compare_moment_iff {comparison : Comparison} {stored time : Moment}
    (moments : field.column.kind = .moment)
    (cell : environment.cell field = .text (Parameter.momentText stored)) :
    holds database environment (.compare field comparison (.moment time)) = true ↔
      comparison.test (compare stored.wall time.wall) = true := by
  simp [holds, truth, moments, cell, compareWith_moment, Truth.isTrue]

theorem holds_span_moment_iff {negated : Bool} {stored first after : Moment}
    (moments : field.column.kind = .moment)
    (cell : environment.cell field = .text (Parameter.momentText stored)) :
    holds database environment (.span field negated (.moment first) (.moment after)) = true ↔
      (first.wall ≤ stored.wall ∧ stored.wall < after.wall ↔ negated = false) := by
  rw [← Comparison.test_ge_iff, ← Comparison.test_lt_iff]
  simp only [holds, truth, moments, cell, compareWith_moment]
  generalize Comparison.ge.test (compare stored.wall first.wall) = atLeast
  generalize Comparison.lt.test (compare stored.wall after.wall) = below
  cases atLeast <;> cases below <;> cases negated <;> decide

/-- The bounds of a day sort a stored moment by the day on its wall clock. -/
theorem holds_momentsBy_iff {next : Date} {time : Moment} (following : day.next? = some next)
    (moments : field.column.kind = .moment)
    (cell : environment.cell field = .text (Parameter.momentText time)) (relation : DayRelation) :
    holds database environment (momentsBy field day next relation) = true ↔
      relation.Relates time.date day := by
  have beforeDay := time.wall_lt_startOf_iff day
  have beforeNext := (time.wall_lt_startOf_iff next).trans (Date.lt_next?_iff following time.date)
  have onDay : (Moment.startOf day).wall ≤ time.wall ∧ time.wall < (Moment.startOf next).wall ↔
      time.date = day := by
    rw [← not_lt, beforeDay, beforeNext, not_lt, and_comm]
    exact le_antisymm_iff.symm
  cases relation with
  | on => exact (holds_span_moment_iff moments cell).trans ((iff_true_right rfl).trans onDay)
  | notOn =>
      rw [momentsBy, holds_span_moment_iff moments cell, onDay]
      simp [DayRelation.Relates]
  | before =>
      rw [momentsBy, holds_compare_moment_iff moments cell, Comparison.test_lt_iff]
      exact beforeDay
  | after =>
      rw [momentsBy, holds_compare_moment_iff moments cell, Comparison.test_ge_iff, ← not_lt,
        beforeNext]
      exact not_le

theorem not_holds_momentsBy_of_null {next : Date} (null : environment.cell field = .null)
    (relation : DayRelation) :
    holds database environment (momentsBy field day next relation) = false := by
  cases relation <;>
    simp [momentsBy, holds, truth, null, compareWith, compareCells, Cell.order?, Truth.isTrue,
      Truth.and, Truth.negateIf, Truth.not]

theorem byDay_of_days (days : field.column.kind = .date)
    (reads : toDate field.column.label value = .ok day) (relation : DayRelation) :
    ∃ comparison, byDay field relation value = .ok (.compare field comparison (.date day)) ∧
      ∀ stored, comparison.test (compare stored day) = true ↔ relation.Relates stored day := by
  unfold byDay
  rw [reads, days]
  refine ⟨_, rfl, fun stored => ?_⟩
  cases relation with
  | on => exact beq_iff_eq.trans compare_eq_iff_eq
  | notOn => exact bne_iff_ne.trans (not_congr compare_eq_iff_eq)
  | before => exact beq_iff_eq.trans compare_lt_iff_lt
  | after => exact beq_iff_eq.trans compare_gt_iff_gt

theorem exists_build_mode (reads : toDate field.column.label value = .ok day)
    (kind : field.column.kind = .date ∨ field.column.kind = .moment ∧ day ≠ .last)
    (relation : DayRelation) :
    ∃ condition, build field relation.mode value = .ok (some condition) ∧
      ∀ (database : Database) (environment : Environment),
        (environment.cell field = .null → holds database environment condition = false) ∧
        ∀ stored, (environment.cell field).OnDay field.column.kind stored →
          (holds database environment condition = true ↔ relation.Relates stored day) := by
  have ofByDay {condition : Condition} (compared : byDay field relation value = .ok condition) :
      build field relation.mode value = .ok (some condition) := by
    cases relation <;> exact congrArg (some <$> ·) compared
  rcases kind with days | ⟨moments, notLast⟩
  · obtain ⟨comparison, compared, sorts⟩ := byDay_of_days days reads relation
    refine ⟨_, ofByDay compared, fun database environment =>
      ⟨fun null => ?_, fun stored onDay => ?_⟩⟩
    · simp [holds, truth, null, compareWith, compareCells, Cell.order?, Truth.isTrue]
    · have cell := Cell.onDay_date_iff.mp (days ▸ onDay)
      rw [← sorts stored]
      simp [holds, truth, days, cell, compareWith_date, Truth.isTrue]
  · obtain ⟨next, following⟩ := Date.exists_next? notLast
    refine ⟨momentsBy field day next relation, ofByDay ?_, fun database environment =>
      ⟨fun null => not_holds_momentsBy_of_null null relation, fun stored onDay => ?_⟩⟩
    · rw [byDay_of_moments moments reads, momentsBy?, following]
    · obtain ⟨time, cell, rfl⟩ := Cell.onDay_moment_iff.mp (moments ▸ onDay)
      exact holds_momentsBy_iff following moments cell relation

theorem selects_mode_iff (reads : toDate field.column.label value = .ok day)
    (kind : field.column.kind = .date ∨ field.column.kind = .moment ∧ day ≠ .last)
    {stored : Date} (onDay : (environment.cell field).OnDay field.column.kind stored)
    (relation : DayRelation) :
    Selects database environment field relation.mode value ↔ relation.Relates stored day := by
  obtain ⟨condition, built, sorts⟩ := exists_build_mode reads kind relation
  rw [selects_iff_holds built, (sorts database environment).2 stored onDay]

end

/-- The modes of days divide the rows of a column of days or moments: the place of the stored day
before, on or after the requested one decides which of three modes selects the row, the fourth one
is the opposite of `dateIs`, and null is selected by none. -/
theorem dayModes_partition {field : Field} {value : Value} {day : Date}
    (reads : toDate field.column.label value = .ok day)
    (kind : field.column.kind = .date ∨ field.column.kind = .moment ∧ day ≠ .last) :
    (∀ mode ∈ dayModes, Compiles field mode value) ∧
      ∀ (database : Database) (environment : Environment),
        (environment.cell field = .null →
          ∀ mode ∈ dayModes, ¬ Selects database environment field mode value) ∧
        ∀ stored, (environment.cell field).OnDay field.column.kind stored →
          (∀ mode ∈ [dateBefore, dateIs, dateAfter],
            Selects database environment field mode value ↔
              mode = ofDayOrder (compare stored day)) ∧
          (Selects database environment field dateIsNot value ↔
            ¬ Selects database environment field dateIs value) := by
  refine ⟨fun mode inModes => ?_, fun database environment => ⟨fun null mode inModes => ?_, ?_⟩⟩
  · obtain ⟨relation, rfl⟩ := mem_dayModes_iff.mp inModes
    obtain ⟨condition, built, -⟩ := exists_build_mode reads kind relation
    exact ⟨some condition, built⟩
  · obtain ⟨relation, rfl⟩ := mem_dayModes_iff.mp inModes
    obtain ⟨condition, built, sorts⟩ := exists_build_mode reads kind relation
    rw [selects_iff_holds built, (sorts database environment).1 null]
    exact Bool.false_ne_true
  · intro stored onDay
    have before : Selects database environment field dateBefore value ↔ stored < day :=
      selects_mode_iff reads kind onDay .before
    have on : Selects database environment field dateIs value ↔ stored = day :=
      selects_mode_iff reads kind onDay .on
    have after : Selects database environment field dateAfter value ↔ day < stored :=
      selects_mode_iff reads kind onDay .after
    have notOn : Selects database environment field dateIsNot value ↔ stored ≠ day :=
      selects_mode_iff reads kind onDay .notOn
    refine ⟨?_, notOn.trans (not_congr on.symm)⟩
    simp only [List.forall_mem_cons, List.not_mem_nil, IsEmpty.forall_iff, implies_true, and_true]
    -- The three relations are the three results of the comparison.
    refine ⟨before.trans ?_, on.trans ?_, after.trans ?_⟩
    · refine compare_lt_iff_lt.symm.trans ?_
      cases compare stored day <;> decide
    · refine compare_eq_iff_eq.symm.trans ?_
      cases compare stored day <;> decide
    · refine compare_gt_iff_gt.symm.trans ?_
      cases compare stored day <;> decide

/-- The last microsecond of a leap day lies on it, and the midnight behind it does not. -/
theorem dayModes_partition_leap_day :
    let createdAt : Field := ⟨"posts", Sample.column "created_at" .moment⟩
    let createdOn (stored : String) : Environment := .ofRow "posts" fun _ => .text stored
    let select (stored : String) (mode : MatchMode) : Prop :=
      Selects Sample.database (createdOn stored) createdAt mode (.str "2024-02-29T10:00")
    select "2024-02-29 23:59:59.999999" .dateIs ∧
      ¬ select "2024-02-29 23:59:59.999999" .dateAfter ∧
      ¬ select "2024-02-29 23:59:59.999999" .dateIsNot ∧
      select "2024-03-01 00:00:00.000000" .dateAfter ∧
      select "2024-03-01 00:00:00.000000" .dateIsNot ∧
      ¬ Selects Sample.database (.ofRow "posts" fun _ => .null) createdAt .dateIsNot
        (.str "2024-02-29T10:00") := by
  intro createdAt createdOn select
  let leapDay : Date := ⟨2024, 2, 29, by decide⟩
  let march : Date := ⟨2024, 3, 1, by decide⟩
  have reads : toDate createdAt.column.label (.str "2024-02-29T10:00") = .ok leapDay := by
    decide +kernel
  obtain ⟨-, sorted⟩ := dayModes_partition reads (.inr ⟨rfl, by decide⟩)
  have lastMoment :
      ((createdOn "2024-02-29 23:59:59.999999").cell createdAt).OnDay .moment leapDay :=
    Cell.onDay_moment_iff.mpr
      ⟨⟨leapDay, ⟨23, 59, 59, 999999, by decide⟩, none⟩, by decide +kernel, rfl⟩
  have midnight : ((createdOn "2024-03-01 00:00:00.000000").cell createdAt).OnDay .moment march :=
    Cell.onDay_moment_iff.mpr ⟨⟨march, .midnight, none⟩, by decide +kernel, rfl⟩
  obtain ⟨onLeapDay, oppositeOn⟩ := (sorted Sample.database _).2 _ lastMoment
  obtain ⟨onMarch, oppositeMarch⟩ := (sorted Sample.database _).2 _ midnight
  have found : select "2024-02-29 23:59:59.999999" .dateIs :=
    (onLeapDay .dateIs (by decide)).mpr (by decide)
  have missed : ¬ select "2024-03-01 00:00:00.000000" .dateIs :=
    mt (onMarch .dateIs (by decide)).mp (by decide)
  refine ⟨found, mt (onLeapDay .dateAfter (by decide)).mp (by decide),
    mt oppositeOn.mp (not_not_intro found), (onMarch .dateAfter (by decide)).mpr (by decide),
    oppositeMarch.mpr missed, (sorted Sample.database _).1 rfl .dateIsNot (by decide)⟩

end Filter

end GridQuery
