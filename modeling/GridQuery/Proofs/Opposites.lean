import GridQuery.Proofs.Alike
import GridQuery.Proofs.Constants
import GridQuery.Sample.Rows

/-!
Opposite modes.  Of a mode and its opposite with one value both constrain a
column or neither does, and then by a condition and its negation.  A row whose
cell is null is selected by no mode at all, and every other row by exactly one
of the two.
-/

namespace GridQuery

open Store

namespace MatchMode

def opposites : List (MatchMode × MatchMode) :=
  [(equals, notEquals), (contains, notContains), (isIn, notIn), (dateIs, dateIsNot)]

end MatchMode

namespace Condition

/-- A condition and its negation, with the same constants. -/
inductive Opposes : Condition → Condition → Prop where
  | compare (field : Field) (value : Value) :
      Opposes (.compare field .eq value) (.compare field .ne value)
  | isNull (field : Field) : Opposes (.isNull field false) (.isNull field true)
  | isTruth (field : Field) (b : Bool) :
      Opposes (.isTruth field false b) (.isTruth field true b)
  | span (field : Field) (low high : Value) :
      Opposes (.span field false low high) (.span field true low high)
  | among (field : Field) (values : List Value) :
      Opposes (.among field false values) (.among field true values)
  | like (field : Field) (anchor : Anchor) (text : String) :
      Opposes (.like field false anchor text) (.like field true anchor text)

namespace Opposes

variable {condition negation : Condition} (opposes : Opposes condition negation)

include opposes

theorem parameters?_eq : parameters? negation = parameters? condition := by
  cases opposes <;> rfl

theorem conditionResolves_eq (tables : Names.Tables) :
    Names.conditionResolves tables negation = Names.conditionResolves tables condition := by
  cases opposes <;> rfl

theorem accepts_iff (table : String) : Accepts table condition ↔ Accepts table negation := by
  rw [Accepts, Accepts, opposes.parameters?_eq, opposes.conditionResolves_eq]

theorem truth_eq (database : Database) (environment : Environment) :
    truth database environment negation = (truth database environment condition).not := by
  have compared (cell other : Cell) :
      compareCells .ne cell other = (compareCells .eq cell other).not := by
    rw [compareCells, compareCells, Truth.not, Option.map_map]
    rfl
  cases opposes with
  | compare => exact compared _ _
  | isNull => simp [truth, Truth.not]
  | isTruth => exact compared _ _
  | span | among | like => rfl

end Opposes

end Condition

namespace Filter

variable {field : Field} {value : Value}

theorem equality_opposes : (equality field false value).Opposes (equality field true value) := by
  cases value with
  | null => exact .isNull field
  | bool b => exact .isTruth field b
  | _ => exact .compare field _

theorem daySpan_opposes (start : Moment) :
    Alike Condition.Opposes (daySpan field false start) (daySpan field true start) := by
  apply Alike.bind_same
  intro stop
  exact .ok (.span field _ _)

theorem equal_opposes :
    Alike Condition.Opposes (equal field false value) (equal field true value) := by
  apply Alike.bind_same
  intro coerced
  split
  · split
    · exact daySpan_opposes _
    · exact .ok equality_opposes
  · exact .ok equality_opposes

theorem substring_opposes (anchor : Anchor) :
    Alike Condition.Opposes (substring field false anchor value)
      (substring field true anchor value) := by
  unfold substring
  split
  · exact .rejected _ _
  · exact .rejected _ _
  · exact (Alike.refl Eq.refl _).map fun text _ same => same ▸ .like field anchor text

theorem byDay_opposes :
    Alike Condition.Opposes (byDay field .on value) (byDay field .notOn value) := by
  apply Alike.bind_same
  intro day
  split
  · apply Alike.bind_same
    intro stop
    exact .ok (.span field _ _)
  · exact .ok (.compare field _)
  · exact .rejected _ _

theorem membership_opposes :
    Alike (Option.Rel Condition.Opposes) (membership field false value)
      (membership field true value) := by
  unfold membership
  split
  · exact .rejected _ _
  · apply Alike.bind_same
    intro values
    split
    · exact .ok .none
    · exact .ok (.some (.among field values))

section Constraints

variable {first second : Outcome (Option Condition)}
  (opposed : Alike (Option.Rel Condition.Opposes) first second)

include opposed

theorem eq_ok_none_iff_of_opposed : first = .ok none ↔ second = .ok none := by
  rcases opposed with (_ | _) | _ | _ <;> simp

theorem exists_eq_ok_some_iff_of_opposed :
    (∃ condition, first = .ok (some condition)) ↔ ∃ negation, second = .ok (some negation) := by
  rcases opposed with (_ | _) | _ | _ <;> simp

theorem opposes_of_opposed {condition negation : Condition}
    (constrains : first = .ok (some condition)) (constrainsToo : second = .ok (some negation)) :
    condition.Opposes negation := by
  subst constrains constrainsToo
  cases opposed with
  | ok related =>
      cases related with
      | some opposes => exact opposes

end Constraints

/-- Two opposite modes fail alike on a value, or constrain the column not at all, or by a condition
and its negation. -/
theorem build_opposites {mode opposite : MatchMode}
    (opposed : (mode, opposite) ∈ MatchMode.opposites) :
    Alike (Option.Rel Condition.Opposes) (build field mode value) (build field opposite value) := by
  simp only [MatchMode.opposites, List.mem_cons, Prod.mk.injEq, List.not_mem_nil, or_false]
    at opposed
  rcases opposed with ⟨rfl, rfl⟩ | ⟨rfl, rfl⟩ | ⟨rfl, rfl⟩ | ⟨rfl, rfl⟩
  · exact equal_opposes.map_some
  · exact (substring_opposes .anywhere).map_some
  · exact membership_opposes
  · exact byDay_opposes.map_some

end Filter

namespace Store

variable {database : Database} {query : Query} {condition negation : Condition} {found : List Row}

theorem Accepts.table_eq {table : String} {field : Field} (accepted : Accepts table condition)
    (about : condition.field? = some field) : field.table = table := by
  have known : Names.fieldResolves [[table]] field = true := by
    cases condition with
    | related => simp [Condition.field?] at about
    | _ =>
        cases about
        exact accepted.2
  by_contra other
  simp [Names.fieldResolves, Names.resolves, other] at known

theorem rows_restrictAll_eq_ok_iff :
    rows database (query.restrictAll [condition]) = .ok found ↔
      checkRestrictions query = .ok () ∧ Accepts query.model.table.name condition ∧
        checkOrder query = .ok () ∧ sorted database (query.restrictAll [condition]) = found := by
  have restricted : checkRestrictions (query.restrictAll [condition]) = .ok () ↔
      checkRestrictions query = .ok () ∧ Accepts query.model.table.name condition := by
    simp only [checkRestrictions_eq_ok_iff, Query.restrictAll, List.flatMap_append,
      List.forall_mem_append]
    simp [conditionsOf]
  rw [rows_eq_ok_iff, restricted, and_assoc]
  rfl

theorem mem_rows_restrictAll_iff
    (executed : rows database (query.restrictAll [condition]) = .ok found)
    (row : Row) : row ∈ found ↔ row ∈ select database query ∧
      holds database (.ofRow query.model.table.name row) condition = true := by
  rw [(rows_perm_select executed).mem_iff, Query.restrictAll, select_append, List.mem_filter]
  simp [meets]

theorem exists_rows_opposite (opposes : condition.Opposes negation) :
    (∃ found, rows database (query.restrictAll [condition]) = .ok found) ↔
      ∃ found, rows database (query.restrictAll [negation]) = .ok found := by
  simp only [rows_restrictAll_eq_ok_iff, exists_and_left, opposes.accepts_iff]
  simp

end Store

namespace Filter

variable {database : Database} {query : Query} {path : FieldPath} {value : Value}
  {mode opposite : MatchMode} {condition negation : Condition} {found others : List Row}

section Direct

variable (direct : path.hops = [])

include direct

/-- What a mode asks for directly constrains the cell of the row, and the store takes it. -/
theorem constrains_of_rows (compiled : compile path mode value = .ok (some condition))
    (executed : rows database (query.restrictAll [condition]) = .ok found) :
    condition.Constrains path.field value ∧ Accepts query.model.table.name condition ∧
      ∀ row : Row, (Environment.ofRow query.model.table.name row).cell path.field =
        row path.field.column.name := by
  rw [compile_of_direct direct] at compiled
  have constrains := (build_isBuilt compiled).constrains
  obtain ⟨-, accepted, -⟩ := rows_restrictAll_eq_ok_iff.mp executed
  have ofModel := accepted.table_eq constrains.field?_eq
  refine ⟨constrains, accepted, fun row => ?_⟩
  exact Environment.cell_of_row? (by rw [ofModel, Environment.row?_ofRow])

theorem ne_null_of_mem_rows (given : value ≠ .null)
    (compiled : compile path mode value = .ok (some condition))
    (executed : rows database (query.restrictAll [condition]) = .ok found) {row : Row}
    (member : row ∈ found) : row path.field.column.name ≠ .null := by
  obtain ⟨constrains, accepted, sameCell⟩ := constrains_of_rows direct compiled executed
  obtain ⟨-, isTrue⟩ := (mem_rows_restrictAll_iff executed row).mp member
  intro null
  rw [holds, truth_of_null constrains given ((sameCell row).trans null) accepted] at isTrue
  simp [Truth.isTrue] at isTrue

theorem mem_rows_opposite_iff (compiled : compile path mode value = .ok (some condition))
    (opposes : condition.Opposes negation) (defined : condition.IsDefined)
    (executed : rows database (query.restrictAll [condition]) = .ok found)
    (executedToo : rows database (query.restrictAll [negation]) = .ok others) {row : Row}
    (inSight : row ∈ select database query) (cellGiven : row path.field.column.name ≠ .null) :
    row ∈ others ↔ row ∉ found := by
  obtain ⟨constrains, accepted, sameCell⟩ := constrains_of_rows direct compiled executed
  obtain ⟨b, known⟩ : ∃ b, truth database (.ofRow query.model.table.name row) condition = some b :=
    exists_truth constrains (by rwa [sameCell])
      fun _ member => accepted.isStored constrains defined member
  rw [mem_rows_restrictAll_iff executed, mem_rows_restrictAll_iff executedToo, holds, holds,
    opposes.truth_eq, known]
  cases b <;> simp [inSight, Truth.not, Truth.isTrue]

end Direct

/-- Whatever a column of the model is compared with, a row whose cell is null is not selected.  Of
two opposite modes with the same value both constrain the column or neither does, the store takes
both conditions or neither, and if no undefined number is in them, exactly one of them selects a
row whose cell is not null. -/
theorem opposites_divide_rows (database : Database) (query : Query) (direct : path.hops = [])
    (given : value ≠ .null) :
    (∀ mode condition found, compile path mode value = .ok (some condition) →
      rows database (query.restrictAll [condition]) = .ok found →
      ∀ row ∈ found, row path.field.column.name ≠ .null) ∧
    ∀ mode opposite, (mode, opposite) ∈ MatchMode.opposites →
      (compile path mode value = .ok none ↔ compile path opposite value = .ok none) ∧
      ((∃ condition, compile path mode value = .ok (some condition)) ↔
        ∃ negation, compile path opposite value = .ok (some negation)) ∧
      ∀ condition negation, compile path mode value = .ok (some condition) →
        compile path opposite value = .ok (some negation) →
        ((∃ found, rows database (query.restrictAll [condition]) = .ok found) ↔
          ∃ others, rows database (query.restrictAll [negation]) = .ok others) ∧
        (condition.IsDefined → ∀ found others,
          rows database (query.restrictAll [condition]) = .ok found →
          rows database (query.restrictAll [negation]) = .ok others →
          ∀ row ∈ select database query, row path.field.column.name ≠ .null →
            (row ∈ others ↔ row ∉ found)) := by
  refine ⟨fun mode condition found compiled executed row member =>
    ne_null_of_mem_rows direct given compiled executed member, ?_⟩
  intro mode opposite inOpposites
  have opposed : Alike (Option.Rel Condition.Opposes) (compile path mode value)
      (compile path opposite value) := by
    rw [compile_of_direct direct, compile_of_direct direct]
    exact build_opposites inOpposites
  refine ⟨eq_ok_none_iff_of_opposed opposed, exists_eq_ok_some_iff_of_opposed opposed, ?_⟩
  intro condition negation compiled compiledToo
  have opposes : condition.Opposes negation := opposes_of_opposed opposed compiled compiledToo
  refine ⟨exists_rows_opposite opposes, ?_⟩
  intro defined found others executed executedToo row inSight cellGiven
  exact mem_rows_opposite_iff direct compiled opposes defined executed executedToo inSight cellGiven

/-- Of five posts two are by the first author and two by another one; the post without an author is
neither. -/
theorem opposites_divide_rows_posts :
    let author : FieldPath := ⟨"author_id", [], ⟨"posts", Sample.column "author_id" .integer⟩⟩
    let query : Query := ⟨Sample.post, [], []⟩
    ∃ condition negation found others,
      compile author .equals (.int 1) = .ok (some condition) ∧
      compile author .notEquals (.int 1) = .ok (some negation) ∧
      rows Sample.database (query.restrictAll [condition]) = .ok found ∧
      rows Sample.database (query.restrictAll [negation]) = .ok others ∧
      found.length = 2 ∧ others.length = 2 ∧ (∀ row ∈ found, row "author_id" ≠ .null) ∧
      ∀ row ∈ select Sample.database query, row "author_id" ≠ .null →
        (row ∈ others ↔ row ∉ found) := by
  intro author query
  let condition : Condition := .compare author.field .eq (.int 1)
  let negation : Condition := .compare author.field .ne (.int 1)
  have compiled : compile author .equals (.int 1) = .ok (some condition) := rfl
  have compiledToo : compile author .notEquals (.int 1) = .ok (some negation) := rfl
  have defined : condition.IsDefined := by
    simp [Condition.IsDefined, condition, Condition.constants, Parameter.beside,
      Parameter.sharedKind, Parameter.kindBeside, Parameter.IsUndefined, author, Sample.column,
      Parameter.kindOf?]
  have executed : rows Sample.database (query.restrictAll [condition]) =
      .ok (sorted Sample.database (query.restrictAll [condition])) :=
    rows_eq_ok_iff.mpr ⟨by decide +kernel, by decide +kernel, rfl⟩
  obtain ⟨neverNull, opposed⟩ := opposites_divide_rows Sample.database query
    (rfl : author.hops = []) (by simp : Value.int 1 ≠ .null)
  obtain ⟨-, -, both⟩ := opposed .equals .notEquals (by decide)
  obtain ⟨executes, divided⟩ := both condition negation compiled compiledToo
  obtain ⟨others, executedToo⟩ := executes.mp ⟨_, executed⟩
  refine ⟨condition, negation, _, others, compiled, compiledToo, executed, executedToo, ?_, ?_,
    neverNull .equals condition _ compiled executed, divided defined _ _ executed executedToo⟩
  · rw [(rows_perm_select executed).length_eq]
    decide +kernel
  · rw [(rows_perm_select executedToo).length_eq]
    decide +kernel

end Filter

end GridQuery
