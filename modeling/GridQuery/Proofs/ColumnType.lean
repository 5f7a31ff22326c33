import GridQuery.CustomFilter
import GridQuery.Proofs.Composition
import GridQuery.Proofs.Constraint
import GridQuery.Sample.Endpoints

/-!
The type of a column.  What a value is brought to for a column is of the type of
the column, and the values of this type are the ones that stay as they are.
So a query compares a column with values of its type alone, unless the values of
requests are taken as they are there.
-/

namespace GridQuery

open Coercion Store

/-- A value of the type of the columns of a kind; the moments in a column have an offset. -/
inductive Value.IsOf : ColumnKind → Value → Prop
  | text (s : String) : IsOf .text (.str s)
  | integer (n : Int) : IsOf .integer (.int n)
  | real (x : Double) : IsOf .real (.float x)
  | numeric (d : Decimal) : IsOf .numeric (.decimal d)
  | boolean (b : Bool) : IsOf .boolean (.bool b)
  | uuid (id : Uuid) : IsOf .uuid (.uuid id)
  | date (day : Date) : IsOf .date (.date day)
  | moment {time : Moment} (aware : time.offset.isSome = true) : IsOf .moment (.moment time)

theorem Value.isOf_moment_iff {kind : ColumnKind} {time : Moment} :
    (Value.moment time).IsOf kind ↔ kind = .moment ∧ time.offset.isSome = true := by
  constructor
  · intro isOf
    cases isOf with
    | moment aware => exact ⟨rfl, aware⟩
  · rintro ⟨rfl, aware⟩
    exact .moment aware

namespace Moment

theorem isSome_offset_assumeUtc (time : Moment) : time.assumeUtc.offset.isSome = true := by
  cases known : time.offset <;> simp [assumeUtc, known]

theorem assumeUtc_of_isSome {time : Moment} (aware : time.offset.isSome = true) :
    time.assumeUtc = time := by
  obtain ⟨date, clock, offset⟩ := time
  obtain ⟨offset, rfl⟩ := Option.isSome_iff_exists.mp aware
  rfl

end Moment

namespace Coercion

variable {column : Column} {raw value : Value}

theorem isSome_offset_of_toMoment {label : String} {time : Moment}
    (reads : toMoment label raw = .ok time) : time.offset.isSome = true := by
  unfold toMoment at reads
  split at reads
  · obtain rfl := Except.ok.inj reads
    exact Moment.isSome_offset_assumeUtc _
  · obtain ⟨text, -, read⟩ := bind_eq_ok_iff.mp reads
    split at read
    · obtain rfl := Except.ok.inj read
      exact Moment.isSome_offset_assumeUtc _
    · simp [refuse, reject] at read

theorem isOf_of_coerce (known : column.kind.isCoerced = true)
    (reads : coerce column raw = .ok value) (given : value ≠ .null) : value.IsOf column.kind := by
  have ofKind : Parameter.kindOf? value = some column.kind :=
    (kindOf?_of_coerce known reads).resolve_right fun null => given null.2
  unfold coerce at reads
  generalize column.kind = kind at known reads ofKind
  cases value with
  | null | list | tuple | set | object => simp [Parameter.kindOf?] at ofKind
  | bytes =>
      obtain rfl : _ = kind := Option.some.inj ofKind
      simp [ColumnKind.isCoerced] at known
  | moment time =>
      obtain rfl : _ = kind := Option.some.inj ofKind
      obtain ⟨read, readMoment, same⟩ := map_eq_ok_iff.mp reads
      obtain rfl : read = time := Value.moment.inj same
      exact .moment (isSome_offset_of_toMoment readMoment)
  | bool | int | float | str | decimal | uuid | date =>
      obtain rfl : _ = kind := Option.some.inj ofKind
      constructor

theorem coerce_of_isOf (isOf : value.IsOf column.kind) : coerce column value = .ok value := by
  rw [coerce]
  generalize column.kind = kind at isOf
  cases isOf with
  | @moment time aware =>
      change Except.ok (Value.moment time.assumeUtc) = _
      rw [Moment.assumeUtc_of_isSome aware]
  | _ => rfl

theorem coerce_eq_self_iff (known : column.kind.isCoerced = true) (given : value ≠ .null) :
    coerce column value = .ok value ↔ value.IsOf column.kind :=
  ⟨fun reads => isOf_of_coerce known reads given, coerce_of_isOf⟩

theorem coerce_coerce (reads : coerce column raw = .ok value) :
    coerce column value = .ok value := by
  cases known : column.kind.isCoerced with
  | false => exact coerce_of_not_isCoerced known value
  | true =>
      by_cases null : value = .null
      · rwa [Filter.eq_null_of_coerce reads null, ← null] at reads
      · exact coerce_of_isOf (isOf_of_coerce known reads null)

end Coercion

namespace Filter

variable {condition : Condition} {raw : Value}

theorem IsOperand.isOf {column : Column} {value : Value} (operand : IsOperand column value)
    (known : column.kind.isCoerced = true) : value.IsOf column.kind := by
  induction operand with
  | coerced reads given => exact isOf_of_coerce known reads given
  | day day days =>
      rw [days]
      exact .date day
  | start day moments => exact Value.isOf_moment_iff.mpr ⟨moments, rfl⟩
  | next _ following inductionHypothesis =>
      obtain ⟨date, -, rfl⟩ := exists_of_dayAfter following
      rwa [Value.isOf_moment_iff] at inductionHypothesis ⊢

theorem comparisons_throughHops (hops : List Linkage) (condition : Condition) :
    (throughHops hops condition).comparisons = condition.comparisons := by
  induction hops with
  | nil => rfl
  | cons link later inductionHypothesis => exact inductionHypothesis

theorem isOperand_of_compile {path : FieldPath} {mode : MatchMode}
    (compiled : compile path mode raw = .ok (some condition)) :
    ∀ compared ∈ condition.comparisons,
      compared.1 = path.field ∧ IsOperand path.field.column compared.2 := by
  obtain ⟨leaf, built, rfl⟩ := compile_eq_ok compiled
  rw [comparisons_throughHops]
  exact built.operands

end Filter

/-- A condition that compares columns with values of their types, unless the values of requests are
taken as they are there. -/
def Condition.IsTyped (condition : Condition) : Prop :=
  ∀ compared ∈ condition.comparisons, compared.1.column.kind.isCoerced = true →
    compared.2.IsOf compared.1.column.kind

def Query.IsTyped (query : Query) : Prop :=
  ∀ condition ∈ query.restrictions.flatMap conditionsOf, condition.IsTyped

theorem Filter.compile_isTyped {path : FieldPath} {mode : MatchMode} {raw : Value}
    {condition : Condition} (compiled : compile path mode raw = .ok (some condition)) :
    condition.IsTyped := by
  rintro ⟨field, value⟩ member known
  obtain ⟨rfl, operand⟩ := isOperand_of_compile compiled _ member
  exact operand.isOf known

theorem Query.IsTyped.restrictAll {query : Query} (typed : query.IsTyped)
    {conditions : List Condition} (added : ∀ condition ∈ conditions, condition.IsTyped) :
    (query.restrictAll conditions).IsTyped := by
  intro condition member
  simp only [Query.restrictAll, List.flatMap_append, List.mem_append, List.flatMap_map] at member
  rcases member with before | isAdded
  · exact typed condition before
  · exact added condition (by simpa [conditionsOf] using isAdded)

theorem Compose.request_isTyped {context : Context} {query : Query} {choice : Value}
    {request : Members} {composed : Composed} (typed : query.IsTyped)
    (returned : Compose.request context query choice request = .ok composed) :
    composed.query.IsTyped := by
  intro condition member
  rcases mem_or_exists_of_request returned member with before | ⟨clause, compiled⟩
  · exact typed condition before
  · obtain ⟨path, mode, -, compiled⟩ := exists_of_compileClause compiled
    exact Filter.compile_isTyped compiled

namespace CustomFilter

/-- A declared filter whose callback, if it has one, restricts by typed conditions alone. -/
def KeepsTypes (filter : CustomFilter) : Prop :=
  ∀ callback ∈ filter.callback, ∀ query value restricted, query.IsTyped →
    callback query value = .ok restricted → restricted.IsTyped

variable {context : Context} {query restricted : Query} {request : Members}

theorem compile_isTyped {model : Model} {key : String} {filter : CustomFilter} {value : Value}
    {condition : Condition}
    (compiled : compile context model key filter value = .ok (some condition)) :
    condition.IsTyped := by
  unfold compile at compiled
  split at compiled
  · simp [reject] at compiled
  · split at compiled
    · simp at compiled
    · obtain ⟨path, -, compiled⟩ := bind_eq_ok_iff.mp compiled
      exact Filter.compile_isTyped compiled

theorem applyOne_isTyped {key : String} {filter : CustomFilter} {value : Value}
    (keeps : filter.KeepsTypes) (typed : query.IsTyped)
    (applied : applyOne context query key filter value = .ok restricted) : restricted.IsTyped := by
  unfold applyOne at applied
  split at applied
  next callback declared => exact keeps callback declared query value restricted typed applied
  next =>
    obtain ⟨outcome, contained, result⟩ := bind_eq_ok_iff.mp applied
    cases outcome with
    | error error =>
        obtain rfl := Except.ok.inj result
        exact typed
    | ok condition? =>
        obtain rfl := Except.ok.inj result
        rw [QueryOptions.contain_eq_ok_ok_iff] at contained
        refine typed.restrictAll fun condition member => ?_
        obtain rfl : condition? = some condition := by simpa using member
        exact compile_isTyped contained

theorem apply_isTyped {filters : List (String × CustomFilter)}
    (keep : ∀ declared ∈ filters, declared.2.KeepsTypes) (typed : query.IsTyped)
    (applied : apply context query request filters = .ok restricted) : restricted.IsTyped := by
  induction filters generalizing query with
  | nil =>
      obtain rfl := Except.ok.inj applied
      exact typed
  | cons declared rest inductionHypothesis =>
      obtain ⟨keepsFirst, keepLater⟩ := List.forall_mem_cons.mp keep
      obtain ⟨next, first, later⟩ := bind_eq_ok_iff.mp applied
      refine inductionHypothesis keepLater ?_ later
      dsimp only at first
      split at first
      · obtain rfl := Except.ok.inj first
        exact typed
      · exact applyOne_isTyped keepsFirst typed first

theorem viewsAbove_keepsTypes : KeepsTypes { callback := some Sample.viewsAbove } := by
  rintro callback ⟨⟩ query value restricted typed applied
  obtain ⟨n, -, result⟩ := bind_eq_ok_iff.mp applied
  obtain rfl := Except.ok.inj result
  refine typed.restrictAll fun condition member => ?_
  obtain rfl := List.mem_singleton.mp member
  rintro compared inComparisons -
  obtain rfl := List.mem_singleton.mp inComparisons
  exact .integer n

end CustomFilter

/-- A value that is not null is brought to one of the column's type, which stays as it is if it is
brought there again; the values of the type are the ones that stay as they are; and where values are
taken as they are, they stay so.  Hence a filter compares its column with values of the column's
type alone, and so does a query that is restricted by requests and declared filters. -/
theorem coercion_isTyped :
    (∀ (column : Column) (raw value : Value), raw ≠ .null → coerce column raw = .ok value →
      (column.kind.isCoerced = true → value.IsOf column.kind) ∧
        (column.kind.isCoerced = false → value = raw) ∧ coerce column value = .ok value) ∧
    (∀ (column : Column) (value : Value), column.kind.isCoerced = true → value ≠ .null →
      (coerce column value = .ok value ↔ value.IsOf column.kind)) ∧
    (∀ (path : FieldPath) (mode : MatchMode) (raw : Value) (condition : Condition),
      path.field.column.kind.isCoerced = true →
      Filter.compile path mode raw = .ok (some condition) →
        ∀ compared ∈ condition.comparisons,
          compared.1 = path.field ∧ compared.2.IsOf path.field.column.kind) ∧
    (∀ (context : Context) (query : Query) (choice : Value) (request : Members)
      (composed : Composed), query.IsTyped →
      Compose.request context query choice request = .ok composed → composed.query.IsTyped) ∧
    ∀ (context : Context) (query restricted : Query) (request : Members)
      (filters : List (String × CustomFilter)), query.IsTyped →
      (∀ declared ∈ filters, declared.2.KeepsTypes) →
      CustomFilter.apply context query request filters = .ok restricted → restricted.IsTyped := by
  refine ⟨fun column raw value given reads => ⟨fun known => ?_, fun unknown => ?_, ?_⟩,
    fun column value known given => coerce_eq_self_iff known given,
    fun path mode raw condition known compiled compared member => ?_,
    fun context query choice request composed typed returned => ?_,
    fun context query restricted request filters typed keep applied => ?_⟩
  · exact isOf_of_coerce known reads (mt (Filter.eq_null_of_coerce reads) given)
  · rw [coerce_of_not_isCoerced unknown] at reads
    exact (Except.ok.inj reads).symm
  · exact coerce_coerce reads
  · obtain ⟨same, operand⟩ := Filter.isOperand_of_compile compiled compared member
    exact ⟨same, operand.isOf known⟩
  · exact Compose.request_isTyped typed returned
  · exact CustomFilter.apply_isTyped keep typed applied

/-- The text of a moment is brought to one by universal time, which stays as it is; a moment without
an offset does not.  A range of ratings is compared with doubles, although its bounds are an integer
and a text; and all is typed when filters on five columns and a search, one filter behind two
relations, restrict posts that a callback and a day have restricted before. -/
theorem coercion_isTyped_posts :
    let context : Context := ⟨.ofSchema Sample.schema, {}, {}⟩
    let createdAt : Column := Sample.column "created_at" .moment
    let aware : Moment := ⟨⟨2026, 2, 26, by decide⟩, ⟨9, 30, 0, 0, by decide⟩, some .utc⟩
    let naive : Moment := { aware with offset := none }
    let rating : FieldPath := ⟨"rating", [], ⟨"posts", Sample.column "rating" .real⟩⟩
    let declared : List (String × CustomFilter) := [
      ("min_views", { callback := some Sample.viewsAbove }),
      ("day", { kind := "whereDate", column := .str "created_at" })]
    let clause (field mode : String) (value : Value) : Value :=
      .object [("field", .str field), ("matchMode", .str mode), ("value", value)]
    let asked : Members := [("min_views", .str "5"), ("day", .str "2026-02-26"),
      ("filters", .list [clause "views" "in" (.list [.str "20", .null, .float (.ofInt 30)]),
        clause "author.posts.created_at" "between" (.list [.null, .str "2026-02-26"]),
        clause "published" "equals" (.str "Yes"),
        clause "rating" "gte" (.decimal (.finite false 25 (-1))),
        clause "published_on" "lte" (.moment naive)]),
      ("globalFilter", .str "e")]
    (Value.moment aware).IsOf .moment ∧
      coerce createdAt (.moment aware) = .ok (.moment aware) ∧
      ¬ (Value.moment naive).IsOf .moment ∧
      (∃ condition, Filter.compile rating .between (.list [.int 1, .str "2,5"]) =
          .ok (some condition) ∧
        condition.comparisons.length = 2 ∧
        ∀ compared ∈ condition.comparisons, compared.2.IsOf .real) ∧
      ∃ restricted composed,
        CustomFilter.apply context { model := Sample.post } asked declared = .ok restricted ∧
        Compose.request context restricted .null asked = .ok composed ∧
        composed.query.restrictions.length = 8 ∧ composed.query.IsTyped := by
  intro context createdAt aware naive rating declared clause asked
  obtain ⟨coerced, unchanged, compared, requested, applied⟩ := coercion_isTyped
  have read : toMoment "created_at" (.str " 2026-02-26T09:30 ") = .ok aware := by decide +kernel
  have reads : coerce createdAt (.str " 2026-02-26T09:30 ") = .ok (.moment aware) :=
    congrArg (Value.moment <$> ·) read
  obtain ⟨typed, -, stays⟩ := coerced createdAt _ _ (by simp) reads
  refine ⟨typed rfl, stays, ?_, ?_, ?_⟩
  · intro isOf
    have same : coerce createdAt (.moment naive) = .ok (.moment naive) :=
      (unchanged createdAt _ rfl (by simp)).mpr isOf
    have offset : naive.assumeUtc = naive := Value.moment.inj (Except.ok.inj same)
    exact absurd offset (by decide)
  · have evaluated : (do
        let condition ← Filter.compile rating .between (.list [.int 1, .str "2,5"])
        .ok (condition.map (·.comparisons.length))) = (.ok (some 2) : Outcome (Option Nat)) := by
      decide +kernel
    obtain ⟨condition?, compiled, counted⟩ := bind_eq_ok_iff.mp evaluated
    obtain ⟨condition, rfl, two⟩ := Option.map_eq_some_iff.mp (Except.ok.inj counted)
    exact ⟨condition, compiled, two,
      fun pair member => (compared rating _ _ _ rfl compiled pair member).2⟩
  · have evaluated : (do
        let restricted ← CustomFilter.apply context { model := Sample.post } asked declared
        let composed ← Compose.request context restricted .null asked
        .ok composed.query.restrictions.length) = (.ok 8 : Outcome Nat) := by
      decide +kernel
    simp only [bind_eq_ok_iff, Except.ok.injEq] at evaluated
    obtain ⟨restricted, declaredApplied, composed, returned, eight⟩ := evaluated
    have keep : ∀ filter ∈ declared, filter.2.KeepsTypes := by
      simp only [declared, List.forall_mem_cons, List.not_mem_nil, IsEmpty.forall_iff, implies_true,
        and_true]
      exact ⟨CustomFilter.viewsAbove_keepsTypes, nofun⟩
    have unrestricted : Query.IsTyped { model := Sample.post } := by simp [Query.IsTyped]
    exact ⟨restricted, composed, declaredApplied, returned, eight,
      requested context restricted _ _ _
        (applied context _ _ _ _ unrestricted keep declaredApplied) returned⟩

end GridQuery
