import GridQuery.Proofs.Chain
import GridQuery.Proofs.OrderModes

/-!
What a filter asks of its column.  Whatever the mode and the value, the
condition that is built compares the column the path leads to with constants,
and with null only if the value itself is null.  The constants are what values
were brought to for the column, or bounds of a day.  Behind relations it is
that condition about a linked row.
-/

namespace GridQuery

/-- A condition on a column that a filter with some value puts there. -/
inductive Condition.Constrains (field : Field) (raw : Value) : Condition → Prop where
  | isNull (negated : Bool) : raw = .null → Constrains field raw (.isNull field negated)
  | isTruth (negated b : Bool) : Constrains field raw (.isTruth field negated b)
  | compare (comparison : Comparison) {value : Value} :
      value ≠ .null → Constrains field raw (.compare field comparison value)
  | between {low high : Value} :
      low ≠ .null → high ≠ .null → Constrains field raw (.between field low high)
  | span (negated : Bool) {low high : Value} :
      low ≠ .null → high ≠ .null → Constrains field raw (.span field negated low high)
  | among (negated : Bool) {values : List Value} :
      values ≠ [] → (∀ value ∈ values, value ≠ .null) →
      Constrains field raw (.among field negated values)
  | like (negated : Bool) (anchor : Anchor) (text : String) :
      Constrains field raw (.like field negated anchor text)

theorem Condition.Constrains.field?_eq {field : Field} {raw : Value} {condition : Condition}
    (constrains : condition.Constrains field raw) : condition.field? = some field := by
  cases constrains <;> rfl

/-- The values that a condition compares columns with, each beside its column; a text that is looked
for in a column is not compared with it. -/
def Condition.comparisons : Condition → List (Field × Value)
  | .compare field _ value => [(field, value)]
  | .isNull .. | .like .. => []
  | .isTruth field _ truth => [(field, .bool truth)]
  | .between field low high | .span field _ low high => [(field, low), (field, high)]
  | .among field _ values => values.map (field, ·)
  | .related _ inner => inner.comparisons

/-- What a filter compares a column with: what a value is brought to, unless that is null, a day,
and in a column of moments the first one of a day and the same time a day later. -/
inductive Filter.IsOperand (column : Column) : Value → Prop where
  | coerced {raw value : Value} (reads : coerce column raw = .ok value) (given : value ≠ .null) :
      IsOperand column value
  | day (day : Date) (days : column.kind = .date) : IsOperand column (.date day)
  | start (day : Date) (moments : column.kind = .moment) :
      IsOperand column (.moment (.startOf day))
  | next {time later : Moment} (operand : IsOperand column (.moment time))
      (following : dayAfter time = .ok later) : IsOperand column (.moment later)

theorem Filter.IsOperand.ne_null {column : Column} {value : Value}
    (operand : IsOperand column value) : value ≠ .null := by
  cases operand with
  | coerced _ given => exact given
  | day | start | next => exact nofun

/-- A condition that a filter with some value puts on a column, with operands alone in it. -/
structure Condition.IsBuilt (field : Field) (raw : Value) (condition : Condition) : Prop where
  constrains : condition.Constrains field raw
  operands : ∀ compared ∈ condition.comparisons,
    compared.1 = field ∧ Filter.IsOperand field.column compared.2

namespace Condition.IsBuilt

variable {field : Field} {raw value low high : Value}

theorem isNull (negated : Bool) (null : raw = .null) :
    (Condition.isNull field negated).IsBuilt field raw :=
  ⟨.isNull negated null, by simp [comparisons]⟩

theorem isTruth (negated : Bool) {b : Bool} (operand : Filter.IsOperand field.column (.bool b)) :
    (Condition.isTruth field negated b).IsBuilt field raw :=
  ⟨.isTruth negated b, by simpa [comparisons] using operand⟩

theorem compare (comparison : Comparison) (operand : Filter.IsOperand field.column value) :
    (Condition.compare field comparison value).IsBuilt field raw :=
  ⟨.compare comparison operand.ne_null, by simpa [comparisons] using operand⟩

theorem between (lower : Filter.IsOperand field.column low)
    (upper : Filter.IsOperand field.column high) :
    (Condition.between field low high).IsBuilt field raw :=
  ⟨.between lower.ne_null upper.ne_null, by simpa [comparisons] using ⟨lower, upper⟩⟩

theorem span (negated : Bool) (lower : Filter.IsOperand field.column low)
    (upper : Filter.IsOperand field.column high) :
    (Condition.span field negated low high).IsBuilt field raw :=
  ⟨.span negated lower.ne_null upper.ne_null, by simpa [comparisons] using ⟨lower, upper⟩⟩

theorem among (negated : Bool) {values : List Value} (nonempty : values ≠ [])
    (operands : ∀ value ∈ values, Filter.IsOperand field.column value) :
    (Condition.among field negated values).IsBuilt field raw :=
  ⟨.among negated nonempty fun value member => (operands value member).ne_null,
    by simpa [comparisons] using operands⟩

theorem like (negated : Bool) (anchor : Anchor) (text : String) :
    (Condition.like field negated anchor text).IsBuilt field raw :=
  ⟨.like negated anchor text, by simp [comparisons]⟩

end Condition.IsBuilt

namespace Filter

variable {field : Field} {condition : Condition} {raw value : Value}

section Coerced

variable {column : Column}

theorem eq_null_of_coerce (reads : coerce column raw = .ok value) (null : value = .null) :
    raw = .null := by
  cases known : column.kind.isCoerced with
  | true =>
      rcases Coercion.kindOf?_of_coerce known reads with ofKind | ⟨rawNull, -⟩
      · simp [null, Store.Parameter.kindOf?] at ofKind
      · exact rawNull
  | false =>
      rw [Coercion.coerce_of_not_isCoerced known] at reads
      exact (Except.ok.inj reads).trans null

theorem IsOperand.of_given (given : raw ≠ .null) (reads : coerce column raw = .ok value) :
    IsOperand column value :=
  .coerced reads (mt (eq_null_of_coerce reads) given)

theorem isOperand_of_bound? (read : bound? field raw = .ok (some value)) :
    IsOperand field.column value := by
  obtain ⟨given, reads⟩ := bound?_eq_some_iff.mp read
  refine .of_given ?_ reads
  rintro rfl
  simp [isGiven] at given

end Coerced

theorem ordered_isBuilt {comparison : Comparison}
    (operand : value ≠ .null → IsOperand field.column value)
    (built : ordered field comparison value = .ok condition) : condition.IsBuilt field raw := by
  unfold ordered at built
  split at built
  · simp [giveUp] at built
  · simp [giveUp] at built
  next notNull _ =>
    obtain rfl : _ = condition := by simpa using built
    exact .compare comparison (operand notNull)

theorem equality_isBuilt (negated : Bool) (operand : value ≠ .null → IsOperand field.column value)
    (nullOnly : value = .null → raw = .null) :
    (equality field negated value).IsBuilt field raw := by
  unfold equality
  split
  · exact .isNull negated (nullOnly rfl)
  · exact .isTruth negated (operand nofun)
  next notNull _ => exact .compare _ (operand notNull)

theorem daySpan_isBuilt {negated : Bool} {start : Moment}
    (operand : IsOperand field.column (.moment start))
    (built : daySpan field negated start = .ok condition) : condition.IsBuilt field raw := by
  simp only [daySpan, bind_eq_ok_iff, Except.ok.injEq] at built
  obtain ⟨stop, following, rfl⟩ := built
  exact .span negated operand (.next operand following)

theorem substring_isBuilt {negated : Bool} {anchor : Anchor}
    (built : substring field negated anchor value = .ok condition) :
    condition.IsBuilt field raw := by
  unfold substring at built
  split at built
  · simp [Coercion.refuse, reject] at built
  · simp [Coercion.refuse, reject] at built
  · obtain ⟨text, -, rfl⟩ := map_eq_ok_iff.mp built
    exact .like negated anchor text

theorem byOrder_isBuilt {comparison : Comparison}
    (built : byOrder field comparison raw = .ok condition) : condition.IsBuilt field raw := by
  obtain ⟨coerced, reads, ordering⟩ := bind_eq_ok_iff.mp built
  exact ordered_isBuilt (.coerced (coerce_of_scalar reads)) ordering

theorem equal_isBuilt {negated : Bool} (built : equal field negated raw = .ok condition) :
    condition.IsBuilt field raw := by
  obtain ⟨coerced, reads, compared⟩ := bind_eq_ok_iff.mp built
  have operand : coerced ≠ .null → IsOperand field.column coerced :=
    .coerced (coerce_of_scalar reads)
  have nullOnly : coerced = .null → raw = .null := eq_null_of_coerce (coerce_of_scalar reads)
  split at compared
  · split at compared
    · exact daySpan_isBuilt (operand nofun) compared
    · obtain rfl : _ = condition := by simpa using compared
      exact equality_isBuilt negated operand nullOnly
  · obtain rfl : _ = condition := by simpa using compared
    exact equality_isBuilt negated operand nullOnly

theorem byDay_isBuilt {relation : DayRelation}
    (built : byDay field relation value = .ok condition) : condition.IsBuilt field raw := by
  obtain ⟨day, -, compared⟩ := bind_eq_ok_iff.mp built
  split at compared
  next moments =>
    obtain ⟨stop, following, compared⟩ := bind_eq_ok_iff.mp compared
    have start : IsOperand field.column (.moment (.startOf day)) := .start day moments
    cases relation with
    | on | notOn =>
        obtain rfl : _ = condition := by simpa using compared
        exact .span _ start (.next start following)
    | before =>
        obtain rfl : _ = condition := by simpa using compared
        exact .compare _ start
    | after =>
        obtain rfl : _ = condition := by simpa using compared
        exact .compare _ (.next start following)
  next days =>
    obtain rfl : _ = condition := by simpa using compared
    exact .compare _ (.day day days)
  next => simp [Coercion.refuse, reject] at compared

theorem membership_isBuilt {negated : Bool}
    (built : membership field negated value = .ok (some condition)) :
    condition.IsBuilt field raw := by
  unfold membership at built
  split at built
  · simp [Coercion.refuse, reject] at built
  · obtain ⟨values, read, listed⟩ := bind_eq_ok_iff.mp built
    split at listed
    · simp at listed
    next nonempty =>
      obtain rfl : _ = condition := by simpa using listed
      refine .among negated (by simpa using nonempty) fun coerced member => ?_
      obtain ⟨item, inItems, reads⟩ := exists_of_mem_mapM read member
      have given : item ≠ .null := by
        rintro rfl
        simp [Value.isNull] at inItems
      exact .of_given given reads

theorem closedRange_isBuilt {low high : Option Value}
    (lower : ∀ bound ∈ low, IsOperand field.column bound)
    (upper : ∀ bound ∈ high, IsOperand field.column bound)
    (built : closedRange field low high = .ok (some condition)) : condition.IsBuilt field raw := by
  unfold closedRange at built
  split at built
  · obtain rfl : _ = condition := by simpa using built
    exact .between (lower _ rfl) (upper _ rfl)
  · exact ordered_isBuilt (fun _ => lower _ rfl) (map_some_eq_ok_iff.mp built)
  · exact ordered_isBuilt (fun _ => upper _ rfl) (map_some_eq_ok_iff.mp built)
  · simp at built

theorem range_isBuilt {rawLow rawHigh : Value}
    (built : range field rawLow rawHigh = .ok (some condition)) : condition.IsBuilt field raw := by
  simp only [range, bind_eq_ok_iff] at built
  obtain ⟨low, readLow, high, readHigh, bounded⟩ := built
  have lower : ∀ bound ∈ low, IsOperand field.column bound := by
    rintro bound rfl
    exact isOperand_of_bound? readLow
  have upper : ∀ bound ∈ high, IsOperand field.column bound := by
    rintro bound rfl
    exact isOperand_of_bound? readHigh
  split at bounded
  · split at bounded
    · obtain ⟨stop, following, bounded⟩ := bind_eq_ok_iff.mp bounded
      have later : IsOperand field.column (.moment stop) := .next (upper _ rfl) following
      split at bounded
      · exact ordered_isBuilt (fun _ => later) (map_some_eq_ok_iff.mp bounded)
      · obtain rfl : _ = condition := by simpa using bounded
        exact .span false (lower _ rfl) later
    · exact closedRange_isBuilt lower upper bounded
  · exact closedRange_isBuilt lower upper bounded

theorem build_isBuilt {mode : MatchMode}
    (built : build field mode value = .ok (some condition)) : condition.IsBuilt field value := by
  cases mode with
  | contains | notContains | startsWith | endsWith =>
      exact substring_isBuilt (map_some_eq_ok_iff.mp built)
  | dateIs | dateIsNot | dateBefore | dateAfter =>
      exact byDay_isBuilt (map_some_eq_ok_iff.mp built)
  | isIn | notIn => exact membership_isBuilt built
  | between =>
      simp only [build, rangeOf] at built
      split at built
      · exact range_isBuilt built
      · exact range_isBuilt built
      · simp [Coercion.refuse, reject] at built
  | equals | notEquals => exact equal_isBuilt (map_some_eq_ok_iff.mp built)
  | lt | lte | gt | gte => exact byOrder_isBuilt (map_some_eq_ok_iff.mp built)

theorem compile_eq_ok {path : FieldPath} {mode : MatchMode}
    (compiled : compile path mode value = .ok (some condition)) :
    ∃ leaf : Condition, leaf.IsBuilt path.field value ∧
      condition = throughHops path.hops leaf := by
  obtain ⟨built, builds, result⟩ := bind_eq_ok_iff.mp compiled
  obtain ⟨leaf, rfl, rfl⟩ : ∃ leaf, built = some leaf ∧ throughHops path.hops leaf = condition := by
    simpa using result
  exact ⟨leaf, build_isBuilt builds, rfl⟩

end Filter

end GridQuery
