import GridQuery.Filter
import GridQuery.Proofs.Cell
import GridQuery.Proofs.Outcome
import GridQuery.Store.Evaluate

/-!
What the store compares with a column.  A value that was brought to the kind of
its column is stored in the form of that kind, alone or among others, and the
store compares its cell by one order, so the comparisons of a value agree.
-/

namespace GridQuery

def ColumnKind.isCoerced : ColumnKind → Bool
  | .text | .integer | .real | .numeric | .boolean | .uuid | .date | .moment => true
  | .time | .interval | .json | .bytes | .untyped => false

/-- A value that the store does not refuse as an integer of more than 64 bits, nor takes for null as
an undefined number. -/
def Value.isStorable : Value → Bool
  | .int n => isWord n
  | .float x => x != .nan
  | .decimal (.nan ..) => false
  | _ => true

theorem Double.ofDecimal_ne_nan (negative : Bool) (coefficient : Nat) (exponent : Int) :
    ofDecimal negative coefficient exponent ≠ .nan := by
  have ratio (num den : Nat) : ofRatio negative num den ≠ .nan := by
    unfold ofRatio
    dsimp only
    split
    · simp
    · split <;> (dsimp only; split <;> simp)
  unfold ofDecimal
  dsimp only
  split
  · simp
  · split
    · simp
    · split
      · simp
      · exact ratio _ _

namespace Store

open Parameter

def operand (kind : ColumnKind) (value : Value) : Cell :=
  ((cells ((ofValues? kind [value]).getD [])).headD .null).read (affinityOf kind)

/-- A value of the kind of its column, which the store keeps. -/
structure Fits (kind : ColumnKind) (value : Value) : Prop where
  ofKind : kindOf? value = some kind
  storable : value.isStorable = true

namespace Fits

variable {kind : ColumnKind} {value : Value}

theorem kindBeside_eq (fits : Fits kind value) : kindBeside kind value = kind := by
  have ofKind := fits.ofKind
  cases value with
  | null | list | tuple | set | object => simp [kindOf?] at ofKind
  | bool | int | float | str | bytes | decimal | uuid | date | moment =>
      obtain rfl : _ = kind := Option.some.inj ofKind
      rfl

theorem exists_ofKind? (fits : Fits kind value) :
    ∃ cell, ofKind? kind value = some (.ok cell) ∧ cell ≠ .null := by
  obtain ⟨ofKind, storable⟩ := fits
  cases value with
  | null | list | tuple | set | object => simp [kindOf?] at ofKind
  | bool b =>
      obtain rfl : _ = kind := Option.some.inj ofKind
      exact ⟨_, rfl, by simp⟩
  | int n =>
      obtain rfl : _ = kind := Option.some.inj ofKind
      exact ⟨.int n, congrArg some (if_pos storable), by simp⟩
  | float x =>
      obtain rfl : _ = kind := Option.some.inj ofKind
      have defined : x ≠ .nan := by simpa [Value.isStorable] using storable
      exact ⟨.real x, by simp [ofKind?, toDouble?, ofDouble, defined], by simp⟩
  | decimal d =>
      obtain rfl : _ = kind := Option.some.inj ofKind
      cases d with
      | nan => simp [Value.isStorable] at storable
      | infinite negative => exact ⟨_, rfl, by simp⟩
      | finite negative coefficient exponent =>
          have defined := Double.ofDecimal_ne_nan negative coefficient exponent
          exact ⟨.real (.ofDecimal negative coefficient exponent),
            by simp [ofKind?, toDouble?, Decimal.toDouble?, ofDouble, defined], by simp⟩
  | str | bytes | uuid | date | moment =>
      obtain rfl : _ = kind := Option.some.inj ofKind
      exact ⟨_, rfl, by simp⟩

/-- Beside a column of its kind a value is stored in one form, alone or among others. -/
theorem ofKind?_eq (fits : Fits kind value) :
    ∃ cell, ofKind? kind value = some (.ok cell) ∧
      operand kind value = cell.read (affinityOf kind) ∧ operand kind value ≠ .null := by
  obtain ⟨cell, stored, given⟩ := fits.exists_ofKind?
  have alone : operand kind value = cell.read (affinityOf kind) := by
    simp [operand, ofValues?, fits.kindBeside_eq, stored, cells, Except.toOption]
  exact ⟨cell, stored, alone, by rwa [alone, ne_eq, Cell.read_eq_null_iff]⟩

theorem operand_ne_null (fits : Fits kind value) : operand kind value ≠ .null := by
  obtain ⟨-, -, -, given⟩ := fits.ofKind?_eq
  exact given

end Fits

section

variable {kind : ColumnKind} {cell : Cell}

theorem mapM_ofKind? {values : List Value} (fit : ∀ value ∈ values, Fits kind value) :
    ∃ parameters, values.mapM (ofKind? kind) = some parameters ∧
      (cells parameters).map (·.read (affinityOf kind)) = values.map (operand kind) := by
  induction values with
  | nil => exact ⟨[], rfl, rfl⟩
  | cons value rest inductionHypothesis =>
      obtain ⟨first, others⟩ := List.forall_mem_cons.mp fit
      obtain ⟨stored, parameter, same, -⟩ := first.ofKind?_eq
      obtain ⟨parameters, found, sameRest⟩ := inductionHypothesis others
      refine ⟨.ok stored :: parameters, by simp [List.mapM_cons, parameter, found], ?_⟩
      rw [List.map_cons, ← sameRest, same]
      rfl

theorem compareCells_of_given {other : Cell} (given : cell ≠ .null) (otherGiven : other ≠ .null)
    (comparison : Comparison) :
    compareCells comparison cell other = some (comparison.test (Cell.order cell other)) := by
  simp [compareCells, Cell.order?, given, otherGiven]

theorem compareWith_eq {value : Value} (given : cell ≠ .null) (fits : Fits kind value)
    (comparison : Comparison) :
    compareWith kind comparison cell value =
      some (comparison.test (Cell.order cell (operand kind value))) :=
  compareCells_of_given given fits.operand_ne_null comparison

theorem isAmong_eq {others : List Cell} (given : cell ≠ .null)
    (othersGiven : ∀ other ∈ others, other ≠ .null) :
    isAmong cell others = some (others.any fun other => Cell.order cell other == .eq) := by
  induction others with
  | nil => rfl
  | cons other rest inductionHypothesis =>
      obtain ⟨otherGiven, restGiven⟩ := List.forall_mem_cons.mp othersGiven
      rw [isAmong, inductionHypothesis restGiven, compareCells_of_given given otherGiven,
        List.any_cons]
      cases Cell.order cell other <;> cases rest.any _ <;> rfl

theorem amongValues_eq {values : List Value} (given : cell ≠ .null)
    (fit : ∀ value ∈ values, Fits kind value) (nonempty : values ≠ []) :
    amongValues kind cell values =
      some (values.any fun value => Cell.order cell (operand kind value) == .eq) := by
  obtain ⟨parameters, found, same⟩ := mapM_ofKind? fit
  cases values with
  | nil => exact absurd rfl nonempty
  | cons first rest =>
      have stored : ofValues? kind (first :: rest) = some parameters := by
        rw [ofValues?, (fit first (by simp)).kindBeside_eq, found]
      have othersGiven : ∀ other ∈ (first :: rest).map (operand kind), other ≠ .null := by
        simpa using fun value member => (fit value member).operand_ne_null
      rw [amongValues, stored, Option.getD_some, same, isAmong_eq given othersGiven, List.any_map]
      rfl

end

end Store

namespace Coercion

variable {column : Column} {raw coerced : Value}

theorem exists_of_map_eq_ok {Result : Type} {form : Result → Value} {outcome : Outcome Result}
    (computed : form <$> outcome = .ok coerced) : ∃ result, coerced = form result := by
  obtain ⟨result, -, same⟩ := map_eq_ok_iff.mp computed
  exact ⟨result, same.symm⟩

theorem toInteger_eq_ok {label : String} (reads : toInteger label raw = .ok coerced) :
    (∃ n, coerced = .int n) ∨ raw = .null ∧ coerced = .null := by
  cases raw with
  | null => exact .inr ⟨rfl, (Except.ok.inj reads).symm⟩
  | bool b => simp [toInteger, refuse, reject] at reads
  | int n => exact .inl ⟨n, (Except.ok.inj reads).symm⟩
  | float x =>
      refine .inl ?_
      unfold toInteger at reads
      dsimp only at reads
      split at reads
      · split at reads
        · exact ⟨_, (Except.ok.inj reads).symm⟩
        · simp [refuse, reject] at reads
      · simp [refuse, reject] at reads
  | _ => exact .inl (exists_of_map_eq_ok reads)

theorem toReal_eq_ok {label : String} (reads : toReal label raw = .ok coerced) :
    (∃ x, coerced = .float x) ∨ raw = .null ∧ coerced = .null := by
  cases raw with
  | null => exact .inr ⟨rfl, (Except.ok.inj reads).symm⟩
  | bool b => simp [toReal, refuse, reject] at reads
  | int n =>
      refine .inl ?_
      unfold toReal at reads
      dsimp only at reads
      split at reads
      · exact ⟨_, (Except.ok.inj reads).symm⟩
      · simp [giveUp] at reads
  | float x => exact .inl ⟨x, (Except.ok.inj reads).symm⟩
  | _ => exact .inl (exists_of_map_eq_ok reads)

theorem toNumeric_eq_ok {label : String} (reads : toNumeric label raw = .ok coerced) :
    (∃ d, coerced = .decimal d) ∨ raw = .null ∧ coerced = .null := by
  cases raw with
  | null => exact .inr ⟨rfl, (Except.ok.inj reads).symm⟩
  | bool b => simp [toNumeric, refuse, reject] at reads
  | int n => exact .inl ⟨_, (Except.ok.inj reads).symm⟩
  | decimal d => exact .inl ⟨d, (Except.ok.inj reads).symm⟩
  | _ => exact .inl (exists_of_map_eq_ok reads)

theorem toText_eq_ok {label : String} (reads : toText label raw = .ok coerced) :
    ∃ s, coerced = .str s := by
  cases raw with
  | list | object => simp [toText, refuse, reject] at reads
  | _ => exact exists_of_map_eq_ok reads

theorem kindOf?_of_coerce (known : column.kind.isCoerced = true)
    (reads : coerce column raw = .ok coerced) :
    Store.Parameter.kindOf? coerced = some column.kind ∨ raw = .null ∧ coerced = .null := by
  unfold coerce at reads
  generalize kind : column.kind = columnKind at known reads
  cases columnKind with
  | text =>
      obtain ⟨s, rfl⟩ := toText_eq_ok reads
      exact .inl rfl
  | integer => exact (toInteger_eq_ok reads).imp_left (by rintro ⟨n, rfl⟩; rfl)
  | real => exact (toReal_eq_ok reads).imp_left (by rintro ⟨x, rfl⟩; rfl)
  | numeric => exact (toNumeric_eq_ok reads).imp_left (by rintro ⟨d, rfl⟩; rfl)
  | boolean | uuid | date | moment =>
      obtain ⟨result, rfl⟩ := exists_of_map_eq_ok reads
      exact .inl rfl
  | time | interval | json | bytes | untyped => simp [ColumnKind.isCoerced] at known

theorem coerce_of_not_isCoerced (unknown : column.kind.isCoerced = false) (value : Value) :
    coerce column value = .ok value := by
  rw [coerce]
  generalize column.kind = kind at unknown
  cases kind <;> first | rfl | simp [ColumnKind.isCoerced] at unknown

end Coercion

end GridQuery
