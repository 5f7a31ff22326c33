import GridQuery.Proofs.RangeModes

/-!
Coherence of the modes of order with equality.  The modes agree on a value with
one exception: a day on a column of moments is all of its moments to `equals`
and to the upper bound of `between`, and its first moment to the other modes.
-/

namespace GridQuery

open Store MatchMode Coercion

namespace Filter

/-- On a row whose cell is not null, the modes of order and equality say the same of a value: the
cell is less, equal or greater, the weak comparisons are the strict ones or equality, and an equal
cell is within all bounds by the value. -/
structure IsCoherentOn (database : Database) (environment : Environment) (field : Field)
    (value : Value) : Prop where
  trichotomy : ∃! mode, mode ∈ [lt, equals, gt] ∧ Selects database environment field mode value
  lte_iff : Selects database environment field .lte value ↔
    Selects database environment field .lt value ∨ Selects database environment field .equals value
  gte_iff : Selects database environment field .gte value ↔
    Selects database environment field .gt value ∨ Selects database environment field .equals value
  of_equals : Selects database environment field .equals value →
    ∀ request ∈ [(lte, value), (gte, value), (isIn, .list [value]),
        (between, .list [value, value])],
      Selects database environment field request.1 request.2

/-- The mode that selects what is less, equal or greater. -/
def modeOf : Ordering → MatchMode
  | .lt => lt
  | .eq => equals
  | .gt => gt

theorem existsUnique_of_order {selects : MatchMode → Prop} {order : Ordering}
    (less : selects lt ↔ order = .lt) (equal : selects equals ↔ order = .eq)
    (greater : selects gt ↔ order = .gt) : ∃! mode, mode ∈ [lt, equals, gt] ∧ selects mode := by
  have selected : ∀ mode ∈ [lt, equals, gt], selects mode ↔ mode = modeOf order := by
    simp only [List.forall_mem_cons, List.not_mem_nil, IsEmpty.forall_iff, implies_true, and_true,
      less, equal, greater]
    cases order <;> decide
  have listed : modeOf order ∈ [lt, equals, gt] := by cases order <;> decide
  exact ⟨modeOf order, ⟨listed, (selected _ listed).mpr rfl⟩,
    fun mode other => (selected mode other.1).mp other.2⟩

section

variable {database : Database} {environment : Environment} {field : Field} {value : Value}

theorem selects_isIn_singleton (known : field.column.kind.isCoerced = true)
    (compiles : Compiles field .equals value) (kept : IsKept field value)
    (single : coversDay field value = false) (given : environment.cell field ≠ .null)
    (equal : Selects database environment field .equals value) :
    Selects database environment field .isIn (.list [value]) := by
  by_cases null : value = .null
  · subst null
    exact selects_isIn_of_no_items (by simp) rfl
  · have alone : operands .isIn (.list [value]) = [value] := by
      cases value <;> first | rfl | exact absurd rfl null
    have isIn : Selects database environment field .isIn (.list [value]) ↔ _ :=
      selects_isIn_iff known (by simp [alone]) (by simp [alone, compiles, kept, single]) given
    exact isIn.mpr ⟨value, by simp [alone], equal⟩

theorem isCoherentOn_of_not_coversDay (known : field.column.kind.isCoerced = true)
    (compiles : ∀ mode ∈ .equals :: orderModes, Compiles field mode value)
    (kept : IsKept field value) (single : coversDay field value = false)
    (given : environment.cell field ≠ .null) :
    IsCoherentOn database environment field value := by
  obtain ⟨brought, reads, placed, fits⟩ :=
    exists_fits_of_compiles rfl known (compiles .lt (by simp [orderModes])) kept
  have byOrder {mode : MatchMode} {comparison : Comparison}
      (built : build field mode value = some <$> byOrder field comparison value) :
      Selects database environment field mode value ↔
        comparison.test (orderOf environment field brought) = true :=
    selects_byOrder_iff built reads placed given fits
  have equal : Selects database environment field .equals value ↔ _ :=
    selects_equals_iff single reads given fits
  have less : Selects database environment field .lt value ↔ _ := byOrder rfl
  have lessEqual : Selects database environment field .lte value ↔ _ := byOrder rfl
  have greater : Selects database environment field .gt value ↔ _ := byOrder rfl
  have greaterEqual : Selects database environment field .gte value ↔ _ := byOrder rfl
  have within : Selects database environment field .between (.list [value, value]) ↔ _ :=
    selects_between_iff known rfl
      (fun _ => ⟨compiles .gte (by simp [orderModes]), kept⟩)
      (fun _ => ⟨compiles .lt (by simp [orderModes]), compiles .equals (by simp), kept⟩) given
  constructor
  case trichotomy =>
    exact existsUnique_of_order (less.trans beq_iff_eq) equal (greater.trans beq_iff_eq)
  case lte_iff =>
    rw [lessEqual, less, equal]
    generalize orderOf environment field brought = order
    cases order <;> decide
  case gte_iff =>
    rw [greaterEqual, greater, equal]
    generalize orderOf environment field brought = order
    cases order <;> decide
  case of_equals =>
    intro selected
    have atLeast : Selects database environment field .gte value := by
      rw [greaterEqual, equal.mp selected]
      rfl
    simp only [List.forall_mem_cons, List.not_mem_nil, IsEmpty.forall_iff, implies_true, and_true]
    refine ⟨?_, atLeast, ?_, within.mpr ⟨fun _ => atLeast, fun _ => .inr selected⟩⟩
    · rw [lessEqual, equal.mp selected]
      rfl
    · exact selects_isIn_singleton known (compiles .equals (by simp)) kept single given selected

theorem exists_wall_between {start stop : Moment} (following : dayAfter start = .ok stop) :
    ∃ time : Moment, start.wall < time.wall ∧ time.wall < stop.wall := by
  obtain ⟨date, next, rfl⟩ := exists_of_dayAfter following
  have later : start.date < date := (Date.covBy_of_next? next).lt
  -- The next midnight is between them, or noon if the first moment is a midnight itself.
  rcases (Clock.midnight_le start.clock).lt_or_eq with afterMidnight | atMidnight
  · refine ⟨⟨date, .midnight, none⟩, ?_, ?_⟩
    · exact Prod.Lex.toLex_lt_toLex.mpr (.inl later)
    · exact Prod.Lex.toLex_lt_toLex.mpr (.inr ⟨rfl, afterMidnight⟩)
  · let noon : Clock := ⟨12, 0, 0, 0, by decide⟩
    have beforeNoon : start.clock < noon := by
      rw [← atMidnight, Clock.lt_iff]
      decide
    refine ⟨⟨start.date, noon, none⟩, ?_, ?_⟩
    · exact Prod.Lex.toLex_lt_toLex.mpr (.inr ⟨rfl, beforeNoon⟩)
    · exact Prod.Lex.toLex_lt_toLex.mpr (.inl later)

/-- A moment of a whole day behind its first one is selected by `equals` and by `gt`. -/
theorem exists_not_isCoherentOn (database : Database)
    (compiles : ∀ mode ∈ .equals :: orderModes, Compiles field mode value)
    (day : coversDay field value = true) :
    ∃ environment : Environment, environment.cell field ≠ .null ∧
      ¬ IsCoherentOn database environment field value := by
  obtain ⟨start, stop, moments, reads, following, spanned⟩ :=
    exists_bounds_of_coversDay day (compiles .equals (by simp))
  obtain ⟨time, afterStart, beforeStop⟩ := exists_wall_between following
  let environment : Environment :=
    .ofRow field.table fun _ => .text (Parameter.momentText time)
  have cell : environment.cell field = .text (Parameter.momentText time) := by
    simp [environment, Environment.cell, Environment.ofRow, Environment.row?]
  have given : environment.cell field ≠ .null := by simp [cell]
  refine ⟨environment, given, fun coherent => ?_⟩
  have greater : Selects database environment field .gt value := by
    rw [selects_byOrder_iff rfl reads rfl given (fits_moment moments start),
      orderOf_moment moments, cell, Cell.order_momentText, compare_gt_iff_gt.mpr afterStart]
    rfl
  have equal : Selects database environment field .equals value := by
    rw [selects_iff_holds spanned, holds_span_moment_iff moments cell]
    exact iff_of_true ⟨afterStart.le, beforeStop⟩ rfl
  have same : equals = gt := coherent.trichotomy.unique ⟨by simp, equal⟩ ⟨by simp, greater⟩
  cases same

end

/-- On a column to whose kind values are brought, the modes of order and equality agree on a value
unless it covers a day, and then they do not; a range agrees with `gte` and, for its upper bound,
with `lt` and `equals` in either case; a list agrees with `equals` of its items that are not null,
if there are any and none covers a day, and without such items it is no constraint. -/
theorem orderModes_agree (field : Field) (known : field.column.kind.isCoerced = true) :
    (∀ value, (∀ mode ∈ .equals :: orderModes, Compiles field mode value) → IsKept field value →
      ((∀ (database : Database) (environment : Environment), environment.cell field ≠ .null →
          IsCoherentOn database environment field value) ↔
        coversDay field value = false)) ∧
    (∀ value low high, pair? value = some (low, high) →
      (isGiven low = true → Compiles field .gte low ∧ IsKept field low) →
      (isGiven high = true →
        Compiles field .lt high ∧ Compiles field .equals high ∧ IsKept field high) →
      ∀ (database : Database) (environment : Environment), environment.cell field ≠ .null →
        (Selects database environment field .between value ↔
          (isGiven low = true → Selects database environment field .gte low) ∧
            (isGiven high = true → Selects database environment field .lt high ∨
              Selects database environment field .equals high))) ∧
    (∀ value, operands .isIn value ≠ [] →
      (∀ item ∈ operands .isIn value,
        Compiles field .equals item ∧ IsKept field item ∧ coversDay field item = false) →
      ∀ (database : Database) (environment : Environment), environment.cell field ≠ .null →
        (Selects database environment field .isIn value ↔
          ∃ item ∈ operands .isIn value, Selects database environment field .equals item)) ∧
    ∀ value, (∀ members, value ≠ .object members) → operands .isIn value = [] →
      ∀ (database : Database) (environment : Environment),
        Selects database environment field .isIn value := by
  refine ⟨fun value compiles kept =>
      ⟨fun coherent => ?_, fun single database environment given => ?_⟩,
    fun value low high pair lower upper database environment given => ?_,
    fun value nonempty each database environment given => ?_,
    fun value noObject empty database environment => ?_⟩
  · by_contra day
    rw [Bool.not_eq_false] at day
    obtain ⟨environment, given, incoherent⟩ :=
      exists_not_isCoherentOn (fun _ => []) compiles day
    exact incoherent (coherent _ environment given)
  · exact isCoherentOn_of_not_coversDay known compiles kept single given
  · exact selects_between_iff known pair lower upper given
  · exact selects_isIn_iff known nonempty each given
  · exact selects_isIn_of_no_items noObject empty

/-- The number of views of a post is compared alike by all modes, but a day is not the same to all
of them. -/
theorem orderModes_agree_posts :
    let views : Field := ⟨"posts", Sample.column "views" .integer⟩
    let createdAt : Field := ⟨"posts", Sample.column "created_at" .moment⟩
    let third := Environment.ofRow "posts" (Sample.posts.getD 2 fun _ => .null)
    (∀ (database : Database) (environment : Environment), environment.cell views ≠ .null →
      IsCoherentOn database environment views (.str "30")) ∧
    ¬ (∀ (database : Database) (environment : Environment), environment.cell createdAt ≠ .null →
      IsCoherentOn database environment createdAt (.str "2026-02-26")) ∧
    Selects Sample.database third views .between (.tuple [.int 20, .str ""]) ∧
    Selects Sample.database third views .isIn (.list [.null, .int 10, .str "30"]) ∧
    Selects Sample.database third views .isIn (.list [.null]) := by
  intro views createdAt third
  obtain ⟨single, ranges, lists, noItems⟩ := orderModes_agree views (by decide)
  obtain ⟨days, -⟩ := orderModes_agree createdAt (by decide)
  have thirdGiven : third.cell views ≠ .null := by decide +kernel
  have thirty := single (.str "30") (by decide +kernel) (by decide +kernel)
  have day := days (.str "2026-02-26") (by decide +kernel) (by decide +kernel)
  have between := ranges (.tuple [.int 20, .str ""]) _ _ rfl (by decide +kernel) (by decide +kernel)
    Sample.database third thirdGiven
  have isIn := lists (.list [.null, .int 10, .str "30"]) (by simp [operands, itemsOf, Value.isNull])
    (by simp only [operands, itemsOf]; decide +kernel) Sample.database third thirdGiven
  refine ⟨thirty.mpr (by decide +kernel), mt day.mp (by decide +kernel),
    between.mpr (by decide +kernel), isIn.mpr ⟨.str "30", ?_, by decide +kernel⟩,
    noItems _ (by simp) rfl _ _⟩
  simp [operands, itemsOf, Value.isNull]

/-- A post of half past nine is selected by `equals` with its day and by `gt` as well, but neither
by `lte` nor as one of the items of a list; a range up to the day holds it. -/
theorem orderModes_disagree_on_day :
    let createdAt : Field := ⟨"posts", Sample.column "created_at" .moment⟩
    let second := Environment.ofRow "posts" (Sample.posts.getD 1 fun _ => .null)
    let day : Value := .str "2026-02-26"
    second.cell createdAt = .text "2026-02-26 09:30:00.000000" ∧
      Selects Sample.database second createdAt .equals day ∧
      Selects Sample.database second createdAt .gt day ∧
      ¬ Selects Sample.database second createdAt .lte day ∧
      ¬ Selects Sample.database second createdAt .isIn (.list [day]) ∧
      Selects Sample.database second createdAt .between (.list [.null, day]) := by
  decide +kernel

end Filter

end GridQuery
