import GridQuery.Sql
import Mathlib.Logic.Basic

/-!
Statements without their constants.  To mask a query is to forget the constants
that it compares columns with.  The text of its statement and the names of its
parameters can be read off the masked query: constants only ever become the
values of parameters.
-/

namespace GridQuery

def Condition.masked : Condition → Condition
  | .compare field comparison _ => .compare field comparison .null
  | .isNull field negated => .isNull field negated
  | .isTruth field negated truth => .isTruth field negated truth
  | .between field _ _ => .between field .null .null
  | .span field negated _ _ => .span field negated .null .null
  | .among field negated _ => .among field negated []
  | .like field negated anchor _ => .like field negated anchor ""
  | .related link inner => .related link inner.masked

def Restriction.masked : Restriction → Restriction
  | .holds condition => .holds condition.masked
  | .someOf conditions => .someOf (conditions.map Condition.masked)

def Query.masked (query : Query) : Query :=
  { query with restrictions := query.restrictions.map Restriction.masked }

namespace Sql

def Piece.masked : Piece → Piece
  | .text content => .text content
  | .parameter base _ => .parameter base .null
  | .parameters base _ => .parameters base []

def Fragment.masked (fragment : Fragment) : Fragment :=
  fragment.map Piece.masked

def maskedOperand (operand : Bool × Fragment) : Bool × Fragment :=
  (operand.1, Fragment.masked operand.2)

/-- Two states of numbering that differ at most in the values of parameters. -/
structure Numbering.Agrees (numbering other : Numbering) : Prop where
  counts : numbering.counts = other.counts
  names : numbering.parameters.map (·.1) = other.parameters.map (·.1)

theorem Numbering.Agrees.next {numbering other : Numbering} (agrees : numbering.Agrees other)
    (base : String) (value otherValue : Value) :
    (numbering.next base value).1 = (other.next base otherValue).1 ∧
      (numbering.next base value).2.Agrees (other.next base otherValue).2 := by
  refine ⟨?_, ?_, ?_⟩ <;> simp [Numbering.next, agrees.counts, agrees.names]

/-- Numbering looks at the values of parameters only to hand them over. -/
theorem number_masked (fragment : Fragment) {numbering other : Numbering}
    (agrees : numbering.Agrees other) :
    (Fragment.number numbering fragment).1 =
        (Fragment.number other (Fragment.masked fragment)).1 ∧
      (Fragment.number numbering fragment).2.Agrees
        (Fragment.number other (Fragment.masked fragment)).2 := by
  induction fragment generalizing numbering other with
  | nil => exact ⟨rfl, agrees⟩
  | cons piece rest inductionHypothesis =>
      cases piece with
      | text content =>
          obtain ⟨sameText, restAgrees⟩ := inductionHypothesis agrees
          exact ⟨congrArg (content ++ ·) sameText, restAgrees⟩
      | parameter base value =>
          obtain ⟨sameName, nextAgrees⟩ := agrees.next base value .null
          obtain ⟨sameText, restAgrees⟩ := inductionHypothesis nextAgrees
          exact ⟨congrArg₂ (fun name tail => ":" ++ name ++ tail) sameName sameText, restAgrees⟩
      | parameters base values =>
          obtain ⟨sameName, nextAgrees⟩ := agrees.next base (.list values) (.list [])
          obtain ⟨sameText, restAgrees⟩ := inductionHypothesis nextAgrees
          exact ⟨congrArg₂ (fun name tail => "__[POSTCOMPILE_" ++ name ++ "]" ++ tail) sameName
            sameText, restAgrees⟩

/-- Two statements that differ at most in the values of their parameters. -/
structure Statement.SameForm (first second : Statement) : Prop where
  text : first.text = second.text
  names : first.parameters.map (·.1) = second.parameters.map (·.1)

theorem statement_sameForm {first second : Fragment}
    (same : Fragment.masked first = Fragment.masked second) :
    (Fragment.statement first).SameForm (Fragment.statement second) := by
  obtain ⟨firstText, firstAgrees⟩ := number_masked first ⟨rfl, rfl⟩
  obtain ⟨secondText, secondAgrees⟩ := number_masked second ⟨rfl, rfl⟩
  rw [same] at firstText firstAgrees
  exact ⟨firstText.trans secondText.symm, firstAgrees.names.trans secondAgrees.names.symm⟩

section Parts

variable (fragment other : Fragment) (parts : List (Bool × Fragment))

@[simp] theorem masked_nil : Fragment.masked [] = [] := rfl

@[simp] theorem masked_cons (piece : Piece) :
    Fragment.masked (piece :: fragment) = piece.masked :: Fragment.masked fragment := rfl

@[simp] theorem masked_append :
    Fragment.masked (fragment ++ other) = Fragment.masked fragment ++ Fragment.masked other :=
  List.map_append

@[simp] theorem masked_parenthesize :
    Fragment.masked (parenthesize fragment) = parenthesize (Fragment.masked fragment) := by
  simp [parenthesize, Piece.masked]

theorem masked_intersperse (separator : String) (fragments : List Fragment) :
    Fragment.masked (intersperse separator fragments) =
      intersperse separator (fragments.map Fragment.masked) := by
  induction fragments with
  | nil => rfl
  | cons first rest inductionHypothesis =>
      cases rest with
      | nil => rfl
      | cons second later => simpa [intersperse, Piece.masked] using inductionHypothesis

theorem masked_enclosed (operand : Bool × Fragment) :
    Fragment.masked (if operand.1 then parenthesize operand.2 else operand.2) =
      if (maskedOperand operand).1 then parenthesize (maskedOperand operand).2
      else (maskedOperand operand).2 := by
  unfold maskedOperand
  split <;> simp

theorem masked_joined (separator : String) :
    Fragment.masked (joined separator parts) = joined separator (parts.map maskedOperand) := by
  unfold joined
  rcases parts with _ | ⟨first, _ | ⟨second, later⟩⟩
  · rfl
  · rfl
  · simp only [List.map_cons, masked_intersperse, masked_enclosed, List.map_map, Function.comp_def]

theorem masked_existsFragment (link : Linkage) :
    Fragment.masked (existsFragment link parts) =
      existsFragment link (parts.map maskedOperand) := by
  have maskedParts (enclosed : List Fragment) :
      Fragment.masked (enclosed.flatMap (.text " AND " :: ·)) =
        (enclosed.map Fragment.masked).flatMap (.text " AND " :: ·) := by
    induction enclosed with
    | nil => rfl
    | cons first rest inductionHypothesis =>
        simp [List.flatMap_cons, inductionHypothesis, Piece.masked]
  simp only [existsFragment, masked_append, masked_cons, maskedParts, List.map_map,
    Function.comp_def, masked_enclosed]
  rfl

end Parts

theorem operands_masked (condition : Condition) :
    (operands condition.masked).map maskedOperand = (operands condition).map maskedOperand := by
  induction condition with
  | related link inner inductionHypothesis =>
      simp only [Condition.masked, operands, List.map_cons, List.map_nil, maskedOperand,
        masked_existsFragment, inductionHypothesis]
  | span field negated low high => cases negated <;> rfl
  | among field negated values => cases negated <;> rfl
  | _ => rfl

theorem maskedOperand_alternative (condition : Condition) :
    maskedOperand (alternative condition) =
      match (operands condition).map maskedOperand with
      | [only] => only
      | parts => (false, joined " AND " parts) := by
  unfold alternative
  rcases operands condition with _ | ⟨first, _ | ⟨second, later⟩⟩
  · rfl
  · rfl
  · simp only [List.map_cons, maskedOperand, masked_joined]

theorem restrictionOperands_masked (restriction : Restriction) :
    (restrictionOperands restriction.masked).map maskedOperand =
      (restrictionOperands restriction).map maskedOperand := by
  cases restriction with
  | holds condition => exact operands_masked condition
  | someOf conditions =>
      have alternatives (condition : Condition) :
          maskedOperand (alternative condition.masked) = maskedOperand (alternative condition) := by
        rw [maskedOperand_alternative, operands_masked, maskedOperand_alternative]
      rcases conditions with _ | ⟨first, _ | ⟨second, later⟩⟩
      · rfl
      · exact operands_masked first
      · have group (parts : List (Bool × Fragment)) : maskedOperand (true, joined " OR " parts) =
            (true, joined " OR " (parts.map maskedOperand)) :=
          Prod.ext rfl (masked_joined parts " OR ")
        simp only [Restriction.masked, restrictionOperands, List.map_cons, List.map_nil, group,
          alternatives, List.map_map, Function.comp_def]

theorem selectFragment_masked (query : Query) (columns : List Field) :
    Fragment.masked (selectFragment query.masked columns) =
      Fragment.masked (selectFragment query columns) := by
  have whole : Fragment.masked (whereFragment query.masked.restrictions) =
      Fragment.masked (whereFragment query.restrictions) := by
    simp only [whereFragment, masked_joined, List.map_flatMap, Query.masked, List.flatMap_map,
      restrictionOperands_masked]
  have sameEmpty : query.masked.restrictions.isEmpty = query.restrictions.isEmpty := by
    simp [Query.masked]
  simp only [selectFragment, masked_cons, masked_append, sameEmpty]
  split
  · rfl
  · simp only [masked_cons, whole]
    rfl

/-- Queries that differ in constants only have statements of the same form. -/
theorem sameForm_of_masked_eq {first second : Query} (same : first.masked = second.masked)
    (columns : List Field) :
    (Fragment.statement (selectFragment first columns)).SameForm
      (Fragment.statement (selectFragment second columns)) := by
  apply statement_sameForm
  rw [← selectFragment_masked first, same, selectFragment_masked second]

end Sql

end GridQuery
