import GridQuery.Filter
import GridQuery.Proofs.Selection

/-!
The rows that a filter selects.  A mode and a value either cannot be turned into
a condition on a column, or they select the rows in sight on which the condition
is true; without a condition they select all.
-/

namespace GridQuery

open Store

namespace Filter

/-- A mode and a value that are accepted on a column, whether they constrain it or not. -/
def Compiles (field : Field) (mode : MatchMode) (value : Value) : Prop :=
  ∃ condition?, build field mode value = .ok condition?

/-- A mode and a value are accepted on a column, and the rows in sight meet their condition. -/
def Selects (database : Database) (environment : Environment) (field : Field) (mode : MatchMode)
    (value : Value) : Prop :=
  ∃ condition?, build field mode value = .ok condition? ∧
    ∀ condition ∈ condition?, holds database environment condition = true

section

variable {database : Database} {environment : Environment} {field : Field} {mode : MatchMode}
  {value : Value}

theorem selects_iff_holds {condition : Condition}
    (built : build field mode value = .ok (some condition)) :
    Selects database environment field mode value ↔
      holds database environment condition = true := by
  simp [Selects, built]

theorem selects_of_unconstrained (built : build field mode value = .ok none) :
    Selects database environment field mode value :=
  ⟨none, built, by simp⟩

theorem exists_of_compiles {outcome : Outcome Condition}
    (built : build field mode value = some <$> outcome) (compiles : Compiles field mode value) :
    ∃ condition, outcome = .ok condition := by
  obtain ⟨condition?, accepted⟩ := compiles
  rw [built] at accepted
  obtain ⟨condition, computed, -⟩ := map_eq_ok_iff.mp accepted
  exact ⟨condition, computed⟩

instance : Decidable (Compiles field mode value) :=
  decidable_of_iff ((build field mode value).toBool = true) <| by
    cases built : build field mode value <;> simp [Compiles, built, Except.toBool]

instance : Decidable (Selects database environment field mode value) :=
  decidable_of_iff ((build field mode value).toOption.any
      (·.all (holds database environment)) = true) <| by
    rcases built : build field mode value with failure | condition?
    · simp [Selects, built, Except.toOption]
    · cases condition? <;> simp [Selects, built, Except.toOption]

theorem compile_of_direct {path : FieldPath} (direct : path.hops = []) :
    compile path mode value = build path.field mode value := by
  rw [compile, direct]
  rcases build path.field mode value with failure | condition?
  · rfl
  · cases condition? <;> rfl

end

end Filter

end GridQuery
