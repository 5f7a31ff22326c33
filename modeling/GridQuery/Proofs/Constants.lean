import GridQuery.Proofs.Constraint

/-!
The constants of a condition.  A filter with a value that is not blank compares
its column with constants, of which none is null and none becomes null when it
is handed over, undefined numbers apart.  So its condition is unknown of a null
cell and known of every other one.
-/

namespace GridQuery

open Store

namespace Store.Parameter

/-- The kind whose form values take together beside a column: that of the first one. -/
def sharedKind (column : ColumnKind) : List Value → ColumnKind
  | [] => column
  | first :: _ => kindBeside column first

/-- Values beside a column, each with the kind whose form it takes. -/
def beside (column : ColumnKind) (values : List Value) : List (ColumnKind × Value) :=
  values.map fun value => (sharedKind column values, value)

def ofConstant? (constant : ColumnKind × Value) : Option Parameter :=
  ofKind? constant.1 constant.2

/-- A constant that becomes null when it is handed over, since it is the undefined number. -/
def IsUndefined (constant : ColumnKind × Value) : Prop :=
  match constant.1 with
  | .real | .numeric => toDouble? constant.2 = some .nan
  | .text | .integer | .untyped => constant.2 = .float .nan
  | _ => False

theorem ofValues?_eq (column : ColumnKind) (values : List Value) :
    ofValues? column values = (beside column values).mapM ofConstant? := by
  rw [beside, List.mapM_map]
  cases values <;> rfl

theorem ofDouble_eq_null_iff {x : Double} : ofDouble x = .ok .null ↔ x = .nan := by
  by_cases undefined : x = .nan <;> simp [ofDouble, undefined]

theorem ofPlain_eq_null {value : Value} (null : ofPlain value = .ok .null) :
    value = .null ∨ value = .float .nan := by
  cases value with
  | null => exact .inl rfl
  | float x => exact .inr (congrArg Value.float (ofDouble_eq_null_iff.mp null))
  | int n =>
      simp only [ofPlain] at null
      split at null <;> simp at null
  | _ => simp [ofPlain] at null

theorem isUndefined_of_null {constant : ColumnKind × Value} (given : constant.2 ≠ .null)
    (null : ofConstant? constant = some (.ok .null)) : IsUndefined constant := by
  obtain ⟨kind, value⟩ := constant
  have plain (form : ofKind? kind value = some (ofPlain value)) : value = .float .nan := by
    rw [ofConstant?, form] at null
    exact (ofPlain_eq_null (Option.some.inj null)).resolve_left given
  have double (form : ofKind? kind value = (toDouble? value).map ofDouble) :
      toDouble? value = some .nan := by
    rw [ofConstant?, form] at null
    obtain ⟨x, found, undefined⟩ := Option.map_eq_some_iff.mp null
    rw [found, ofDouble_eq_null_iff.mp undefined]
  cases kind with
  | text | integer | untyped => exact plain (by cases value <;> rfl)
  | real | numeric => exact double (by cases value <;> first | rfl | exact absurd rfl given)
  | _ => cases value <;> simp_all [ofConstant?, ofKind?]

end Store.Parameter

namespace Truth

theorem and_some (a b : Bool) : and (some a) (some b) = some (a && b) := by
  cases a <;> cases b <;> rfl

theorem negateIf_some (negated b : Bool) : negateIf negated (some b) = some (negated ^^ b) := by
  cases negated <;> cases b <;> rfl

theorem negateIf_none (negated : Bool) : negateIf negated none = none := by
  cases negated <;> rfl

end Truth

namespace Condition

/-- The constants of a condition. -/
def constants : Condition → List (ColumnKind × Value)
  | .compare field _ value => Parameter.beside field.column.kind [value]
  | .isNull .. | .isTruth .. => []
  | .between field low high | .span field _ low high =>
      Parameter.beside field.column.kind [low] ++ Parameter.beside field.column.kind [high]
  | .among field _ values => Parameter.beside field.column.kind values
  | .like _ _ _ text => [(.text, .str text)]
  | .related _ inner => inner.constants

/-- A condition without undefined numbers. -/
def IsDefined (condition : Condition) : Prop :=
  ∀ constant ∈ condition.constants, ¬ Parameter.IsUndefined constant

theorem Constrains.ne_null_of_mem_constants {field : Field} {raw : Value} {condition : Condition}
    (constrains : condition.Constrains field raw) {constant : ColumnKind × Value}
    (member : constant ∈ condition.constants) : constant.2 ≠ .null := by
  cases constrains with
  | isNull | isTruth => simp [constants] at member
  | compare _ given =>
      obtain rfl : constant = _ := List.mem_singleton.mp member
      exact given
  | between lowGiven highGiven | span _ lowGiven highGiven =>
      rcases List.mem_append.mp member with isLow | isHigh
      · obtain rfl : constant = _ := List.mem_singleton.mp isLow
        exact lowGiven
      · obtain rfl : constant = _ := List.mem_singleton.mp isHigh
        exact highGiven
  | among _ _ allGiven =>
      obtain ⟨value, inValues, rfl⟩ := List.mem_map.mp member
      exact allGiven value inValues
  | like =>
      obtain rfl : constant = _ := List.mem_singleton.mp member
      exact nofun

end Condition

namespace Store

open Parameter

def Parameter.IsStored (constant : ColumnKind × Value) : Prop :=
  ∃ cell, ofConstant? constant = some (.ok cell) ∧ cell ≠ .null

section Taken

variable {condition : Condition} {table : String}

theorem parameters?_eq (condition : Condition) :
    parameters? condition = condition.constants.mapM ofConstant? := by
  induction condition with
  | compare => exact ofValues?_eq _ _
  | isNull | isTruth => rfl
  | between | span =>
      rw [parameters?, Condition.constants, List.mapM_append, ofValues?_eq, ofValues?_eq]
      rfl
  | among => exact ofValues?_eq _ _
  | like => rfl
  | related _ _ inductionHypothesis => exact inductionHypothesis

theorem Accepts.exists_cell (accepted : Accepts table condition)
    {constant : ColumnKind × Value} (member : constant ∈ condition.constants) :
    ∃ cell, ofConstant? constant = some (.ok cell) := by
  obtain ⟨⟨parameters, stored, unfaulty⟩, -⟩ := accepted
  rw [parameters?_eq] at stored
  have allTaken : ∀ parameter ∈ parameters, ∃ cell, parameter = .ok cell := by
    intro parameter member
    have taken := List.findSome?_eq_none_iff.mp unfaulty parameter member
    cases parameter with
    | error fault => simp at taken
    | ok cell => exact ⟨cell, rfl⟩
  obtain ⟨parameter, found, cell, rfl⟩ :=
    exists_mapM_eq_some_iff.mp ⟨parameters, stored, allTaken⟩ constant member
  exact ⟨cell, found⟩

/-- Of a condition without undefined numbers all constants are stored. -/
theorem Accepts.isStored {field : Field} {raw : Value} (accepted : Accepts table condition)
    (constrains : condition.Constrains field raw) (defined : condition.IsDefined)
    {constant : ColumnKind × Value} (member : constant ∈ condition.constants) :
    IsStored constant := by
  obtain ⟨cell, stored⟩ := accepted.exists_cell member
  refine ⟨cell, stored, ?_⟩
  rintro rfl
  have given := constrains.ne_null_of_mem_constants member
  exact defined constant member (isUndefined_of_null given stored)

end Taken

section Cells

variable {kind : ColumnKind} {cell : Cell}

theorem exists_cells {values : List Value}
    (stored : ∀ constant ∈ beside kind values, IsStored constant) :
    ∃ parameters, ofValues? kind values = some parameters ∧
      ∀ other ∈ (cells parameters).map (·.read (affinityOf kind)), other ≠ .null := by
  have allStored : ∀ constant ∈ beside kind values, ∃ parameter,
      ofConstant? constant = some parameter ∧ ∃ cell, parameter = .ok cell ∧ cell ≠ .null := by
    intro constant member
    obtain ⟨cell, found, given⟩ := stored constant member
    exact ⟨_, found, cell, rfl, given⟩
  obtain ⟨parameters, found, allGiven⟩ := exists_mapM_eq_some_iff.mpr allStored
  refine ⟨parameters, (ofValues?_eq kind values).trans found, ?_⟩
  simp only [cells, List.map_map, List.mem_map]
  rintro other ⟨parameter, member, rfl⟩
  obtain ⟨cell, rfl, given⟩ := allGiven parameter member
  exact mt (Cell.read_eq_null_iff _ _).mp given

theorem operand_ne_null_of_stored {value : Value}
    (stored : ∀ constant ∈ beside kind [value], IsStored constant) :
    operand kind value ≠ .null := by
  obtain ⟨cell, found, given⟩ := stored _ (List.mem_singleton.mpr rfl)
  have alone : operand kind value = cell.read (affinityOf kind) := by
    rw [operand, ofValues?_eq]
    simp [beside, found, cells, Except.toOption]
  rwa [alone, ne_eq, Cell.read_eq_null_iff]

theorem compareCells_null (comparison : Comparison) (other : Cell) :
    compareCells comparison .null other = none := by
  simp [compareCells, Cell.order?]

theorem isAmong_null (other : Cell) (rest : List Cell) : isAmong .null (other :: rest) = none := by
  induction rest generalizing other with
  | nil => simp [isAmong, compareCells_null, Truth.or]
  | cons next later inductionHypothesis =>
      rw [isAmong, compareCells_null, inductionHypothesis]
      rfl

theorem exists_cons_of_ofValues? {values : List Value} {parameters : List Parameter}
    (nonempty : values ≠ []) (found : ofValues? kind values = some parameters) :
    ∃ first rest, parameters = first :: rest := by
  cases values with
  | nil => exact absurd rfl nonempty
  | cons value others =>
      simp only [ofValues?, List.mapM_cons, Option.bind_eq_bind, Option.bind_eq_some_iff] at found
      obtain ⟨first, -, rest, -, result⟩ := found
      exact ⟨first, rest, (Option.some.inj result).symm⟩

theorem exists_castText? (given : cell ≠ .null) : ∃ s, cell.castText? = some s := by
  cases cell with
  | null => exact absurd rfl given
  | _ => exact ⟨_, rfl⟩

end Cells

section Known

variable {condition : Condition} {field : Field} {raw : Value} {table : String}
  {database : Database} {environment : Environment}

theorem exists_truth (constrains : condition.Constrains field raw)
    (cellGiven : environment.cell field ≠ .null)
    (stored : ∀ constant ∈ condition.constants, IsStored constant) :
    ∃ b, truth database environment condition = some b := by
  have compared (comparison : Comparison) {value : Value}
      (stored : ∀ constant ∈ beside field.column.kind [value], IsStored constant) :
      ∃ b, compareWith field.column.kind comparison (environment.cell field) value = some b :=
    ⟨_, compareCells_of_given cellGiven (operand_ne_null_of_stored stored) comparison⟩
  cases constrains with
  | isNull negated => exact ⟨_, rfl⟩
  | isTruth negated b =>
      exact ⟨_, compareCells_of_given cellGiven (by simp [Cell.read_eq_null_iff]) _⟩
  | compare comparison => exact compared comparison stored
  | between =>
      obtain ⟨lowStored, highStored⟩ := List.forall_mem_append.mp stored
      obtain ⟨fromLow, lower⟩ := compared .ge lowStored
      obtain ⟨toHigh, upper⟩ := compared .le highStored
      exact ⟨_, by rw [truth, lower, upper, Truth.and_some]⟩
  | span negated =>
      obtain ⟨lowStored, highStored⟩ := List.forall_mem_append.mp stored
      obtain ⟨fromLow, lower⟩ := compared .ge lowStored
      obtain ⟨beforeHigh, upper⟩ := compared .lt highStored
      exact ⟨_, by rw [truth, lower, upper, Truth.and_some, Truth.negateIf_some]⟩
  | among negated =>
      obtain ⟨parameters, found, othersGiven⟩ := exists_cells stored
      exact ⟨_, by rw [truth, amongValues, found, Option.getD_some,
        isAmong_eq cellGiven othersGiven, Truth.negateIf_some]⟩
  | like negated anchor text =>
      obtain ⟨s, cast⟩ := exists_castText? cellGiven
      exact ⟨_, by rw [truth, likeCell, cast, Option.map_some, Truth.negateIf_some]⟩

theorem truth_of_null (constrains : condition.Constrains field raw) (given : raw ≠ .null)
    (null : environment.cell field = .null) (accepted : Accepts table condition) :
    truth database environment condition = none := by
  have compared (kind : ColumnKind) (comparison : Comparison) (value : Value) :
      compareWith kind comparison .null value = none := compareCells_null _ _
  cases constrains with
  | isNull negated rawNull => exact absurd rawNull given
  | isTruth negated b =>
      rw [truth, null]
      exact compareCells_null _ _
  | compare comparison => rw [truth, null, compared]
  | between =>
      rw [truth, null, compared, compared]
      rfl
  | span negated =>
      rw [truth, null, compared, compared]
      exact Truth.negateIf_none negated
  | among negated nonempty =>
      -- Values without a form would leave an empty list here, of which even null is known not to be
      -- a part; only what the store takes has a form.
      obtain ⟨⟨parameters, found, -⟩, -⟩ := accepted
      rw [parameters?] at found
      obtain ⟨first, rest, rfl⟩ := exists_cons_of_ofValues? nonempty found
      rw [truth, null, amongValues, found, Option.getD_some, cells, List.map_cons, List.map_cons,
        isAmong_null, Truth.negateIf_none]
  | like negated anchor text =>
      rw [truth, null, likeCell]
      exact Truth.negateIf_none negated

end Known

end Store

end GridQuery
