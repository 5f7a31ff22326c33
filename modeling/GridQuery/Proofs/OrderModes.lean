import GridQuery.Proofs.Operand
import GridQuery.Proofs.Overrun
import GridQuery.Proofs.RowFilter

/-!
The modes of order, equality and membership.  Each of them brings its value to
the kind of the column and compares the column's cell with it, so whether it
selects a row is read off one comparison.  A value that covers a day is left
aside here: to equality it is more than one moment.
-/

namespace GridQuery

open Store MatchMode Coercion

namespace Filter

/-- A value that means all moments of a day to the modes of equality. -/
def coversDay (field : Field) (value : Value) : Bool :=
  holdsMoments field && namesDay value

/-- Whatever a value is brought to for a column, the store keeps. -/
def IsKept (field : Field) (value : Value) : Prop :=
  ∀ coerced, coerce field.column value = .ok coerced → coerced.isStorable = true

instance (field : Field) (value : Value) : Decidable (IsKept field value) :=
  decidable_of_iff ((coerce field.column value).toOption.all Value.isStorable = true) <| by
    cases reads : coerce field.column value <;> simp [IsKept, reads, Except.toOption]

section

variable {database : Database} {environment : Environment} {field : Field} {mode : MatchMode}
  {raw value : Value}

def orderOf (environment : Environment) (field : Field) (value : Value) : Ordering :=
  Cell.order (environment.cell field) (operand field.column.kind value)

theorem coerce_of_scalar (reads : scalar field raw = .ok value) :
    coerce field.column raw = .ok value := by
  cases raw with
  | list | object => simp [scalar, refuse, reject] at reads
  | _ => exact reads

theorem fits_of_coerce (known : field.column.kind.isCoerced = true) (kept : IsKept field raw)
    (reads : coerce field.column raw = .ok value) (given : raw ≠ .null ∨ value ≠ .null) :
    Fits field.column.kind value := by
  refine ⟨?_, kept value reads⟩
  rcases kindOf?_of_coerce known reads with ofKind | ⟨rawNull, null⟩
  · exact ofKind
  · rcases given with rawGiven | valueGiven
    · exact absurd rawNull rawGiven
    · exact absurd null valueGiven

theorem ordered_eq (placed : isConstant value = false) (comparison : Comparison) :
    ordered field comparison value = .ok (.compare field comparison value) := by
  cases value <;> first | rfl | simp [isConstant] at placed

theorem byOrder_eq (reads : scalar field raw = .ok value) (placed : isConstant value = false)
    (comparison : Comparison) :
    byOrder field comparison raw = .ok (.compare field comparison value) := by
  rw [byOrder, reads]
  exact ordered_eq placed comparison

/-- A mode of order that is accepted has a value of the column's kind with a place in the order. -/
theorem exists_fits_of_compiles {comparison : Comparison}
    (built : build field mode raw = some <$> byOrder field comparison raw)
    (known : field.column.kind.isCoerced = true) (compiles : Compiles field mode raw)
    (kept : IsKept field raw) :
    ∃ value, scalar field raw = .ok value ∧ isConstant value = false ∧
      Fits field.column.kind value := by
  obtain ⟨condition, compared⟩ := exists_of_compiles built compiles
  obtain ⟨value, reads, accepted⟩ := bind_eq_ok_iff.mp compared
  have placed : isConstant value = false := by
    cases value <;> first | rfl | simp [ordered, giveUp] at accepted
  have given : value ≠ .null := by
    rintro rfl
    simp [isConstant] at placed
  exact ⟨value, reads, placed, fits_of_coerce known kept (coerce_of_scalar reads) (.inr given)⟩

theorem equal_of_not_coversDay {negated : Bool} (single : coversDay field raw = false)
    (reads : scalar field raw = .ok value) :
    equal field negated raw = .ok (equality field negated value) := by
  rw [equal, reads]
  cases value with
  | moment start => exact if_neg (by simpa [coversDay] using single)
  | _ => rfl

theorem holds_compare_iff (given : environment.cell field ≠ .null)
    (fits : Fits field.column.kind value) (comparison : Comparison) :
    holds database environment (.compare field comparison value) = true ↔
      comparison.test (orderOf environment field value) = true := by
  simp [holds, truth, compareWith_eq given fits, Truth.isTrue, orderOf]

theorem holds_equality_iff (given : environment.cell field ≠ .null)
    (fits : Fits field.column.kind value) :
    holds database environment (equality field false value) = true ↔
      orderOf environment field value = .eq := by
  have compared : holds database environment (.compare field .eq value) = true ↔
      orderOf environment field value = .eq :=
    (holds_compare_iff given fits .eq).trans beq_iff_eq
  cases value with
  | null => cases fits.ofKind
  | bool b =>
      -- Truth values are compared as constants, which are stored in the same form.
      have kind : field.column.kind = .boolean := (Option.some.inj fits.ofKind).symm
      refine Iff.trans (Eq.to_iff ?_) compared
      simp only [holds, equality, truth, kind]
      rfl
  | _ => exact compared

theorem exists_of_compiles_equals (compiles : Compiles field .equals raw) :
    ∃ value, scalar field raw = .ok value := by
  obtain ⟨condition, compared⟩ : ∃ condition, equal field false raw = .ok condition :=
    exists_of_compiles rfl compiles
  obtain ⟨value, reads, -⟩ := bind_eq_ok_iff.mp compared
  exact ⟨value, reads⟩

theorem selects_byOrder_iff {comparison : Comparison}
    (built : build field mode raw = some <$> byOrder field comparison raw)
    (reads : scalar field raw = .ok value) (placed : isConstant value = false)
    (given : environment.cell field ≠ .null) (fits : Fits field.column.kind value) :
    Selects database environment field mode raw ↔
      comparison.test (orderOf environment field value) = true := by
  have compared : build field mode raw = .ok (some (.compare field comparison value)) := by
    rw [built, byOrder_eq reads placed]
    rfl
  rw [selects_iff_holds compared, holds_compare_iff given fits]

theorem selects_equals_iff (single : coversDay field raw = false)
    (reads : scalar field raw = .ok value) (given : environment.cell field ≠ .null)
    (fits : Fits field.column.kind value) :
    Selects database environment field .equals raw ↔ orderOf environment field value = .eq := by
  have compared : build field .equals raw = .ok (some (equality field false value)) := by
    rw [build, equal_of_not_coversDay single reads]
    rfl
  rw [selects_iff_holds compared, holds_equality_iff given fits]

/-- The items of a list are brought to the kind of the column, and a cell that equals one of the
results is selected by equality with that item. -/
theorem exists_mapM_coerce {items : List Value}
    (each : ∀ item ∈ items, coversDay field item = false ∧
      ∃ value, scalar field item = .ok value ∧ Fits field.column.kind value) :
    ∃ values, items.mapM (coerce field.column) = .ok values ∧
      values.length = items.length ∧ (∀ value ∈ values, Fits field.column.kind value) ∧
      ∀ (database : Database) (environment : Environment), environment.cell field ≠ .null →
        ((∃ value ∈ values, orderOf environment field value = .eq) ↔
          ∃ item ∈ items, Selects database environment field .equals item) := by
  induction items with
  | nil => exact ⟨[], rfl, rfl, by simp, by simp⟩
  | cons item rest inductionHypothesis =>
      obtain ⟨⟨single, value, reads, fits⟩, others⟩ := List.forall_mem_cons.mp each
      obtain ⟨values, found, sameLength, fit, equal⟩ := inductionHypothesis others
      refine ⟨value :: values, ?_, by simp [sameLength], List.forall_mem_cons.mpr ⟨fits, fit⟩, ?_⟩
      · rw [List.mapM_cons, coerce_of_scalar reads, found]
        rfl
      · intro database environment given
        simp only [List.exists_mem_cons_iff, equal database environment given,
          selects_equals_iff single reads given fits]

theorem ne_null_of_mem_operands {item : Value} (member : item ∈ operands .isIn value) :
    item ≠ .null := by
  rintro rfl
  cases value <;> simp [operands, Value.isNull] at member

theorem membership_eq (noObject : ∀ members, value ≠ .object members) :
    membership field false value =
      (operands .isIn value).mapM (coerce field.column) >>= fun values =>
        .ok (if values.isEmpty then none else some (.among field false values)) := by
  cases value with
  | object members => exact absurd rfl (noObject members)
  | _ => rfl

theorem selects_isIn_of_no_items (noObject : ∀ members, value ≠ .object members)
    (empty : operands .isIn value = []) :
    Selects database environment field .isIn value := by
  apply selects_of_unconstrained
  rw [build, membership_eq noObject, empty]
  rfl

/-- A value is in a list if it equals one of the items that are not null. -/
theorem selects_isIn_iff (known : field.column.kind.isCoerced = true)
    (nonempty : operands .isIn value ≠ [])
    (each : ∀ item ∈ operands .isIn value,
      Compiles field .equals item ∧ IsKept field item ∧ coversDay field item = false)
    (given : environment.cell field ≠ .null) :
    Selects database environment field .isIn value ↔
      ∃ item ∈ operands .isIn value, Selects database environment field .equals item := by
  have readable : ∀ item ∈ operands .isIn value, coversDay field item = false ∧
      ∃ brought, scalar field item = .ok brought ∧ Fits field.column.kind brought := by
    intro item member
    obtain ⟨compiles, kept, single⟩ := each item member
    obtain ⟨brought, reads⟩ := exists_of_compiles_equals compiles
    exact ⟨single, brought, reads,
      fits_of_coerce known kept (coerce_of_scalar reads) (.inl (ne_null_of_mem_operands member))⟩
  obtain ⟨values, found, sameLength, fit, equal⟩ := exists_mapM_coerce readable
  have valuesNonempty : values ≠ [] := by
    rintro rfl
    exact nonempty (List.length_eq_zero_iff.mp sameLength.symm)
  have noObject : ∀ members, value ≠ .object members := by
    rintro members rfl
    exact nonempty rfl
  have built : build field .isIn value = .ok (some (.among field false values)) := by
    rw [build, membership_eq noObject, found]
    simp [bind, Except.bind, valuesNonempty]
  rw [selects_iff_holds built, ← equal database environment given]
  simp [holds, truth, amongValues_eq given fit valuesNonempty, Truth.negateIf, Truth.isTrue,
    orderOf]

end

end Filter

end GridQuery
