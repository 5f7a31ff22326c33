import GridQuery.Compose
import Mathlib.Data.List.Forall2

/-!
Computations that end alike.  Two requests that are not told apart need not
give equal results, nor be refused for the same reason; what matters is that
both give related results, or both are refused, or both give up.
-/

namespace GridQuery

/-- Two computations that end alike: with related results, with errors of items, or with the same
fault. -/
inductive Alike {Alpha Beta : Type} (related : Alpha → Beta → Prop) :
    Outcome Alpha → Outcome Beta → Prop
  | ok {first : Alpha} {second : Beta} :
      related first second → Alike related (.ok first) (.ok second)
  | rejected (first second : QueryError) :
      Alike related (.error (.rejected first)) (.error (.rejected second))
  | fault (fault : Fault) : Alike related (.error (.fault fault)) (.error (.fault fault))

namespace Alike

variable {Alpha Beta Gamma Delta : Type} {related : Alpha → Beta → Prop}
  {relatedLater : Gamma → Delta → Prop}

theorem refl {same : Alpha → Alpha → Prop} (reflexive : ∀ result, same result result)
    (outcome : Outcome Alpha) : Alike same outcome outcome := by
  rcases outcome with (error | fault) | result
  · exact .rejected error error
  · exact .fault fault
  · exact .ok (reflexive result)

theorem bind {first : Outcome Alpha} {second : Outcome Beta} (alike : Alike related first second)
    {firstLater : Alpha → Outcome Gamma} {secondLater : Beta → Outcome Delta}
    (later : ∀ firstResult secondResult, related firstResult secondResult →
      Alike relatedLater (firstLater firstResult) (secondLater secondResult)) :
    Alike relatedLater (first >>= firstLater) (second >>= secondLater) := by
  cases alike with
  | ok resultsRelated => exact later _ _ resultsRelated
  | rejected firstError secondError => exact .rejected firstError secondError
  | fault fault => exact .fault fault

theorem map {first : Outcome Alpha} {second : Outcome Beta} (alike : Alike related first second)
    {form : Alpha → Gamma} {otherForm : Beta → Delta}
    (formed : ∀ result other, related result other → relatedLater (form result) (otherForm other)) :
    Alike relatedLater (form <$> first) (otherForm <$> second) := by
  cases alike with
  | ok resultsRelated => exact .ok (formed _ _ resultsRelated)
  | rejected firstError secondError => exact .rejected firstError secondError
  | fault fault => exact .fault fault

theorem map_some {first : Outcome Alpha} {second : Outcome Beta}
    (alike : Alike related first second) :
    Alike (Option.Rel related) (some <$> first) (some <$> second) :=
  alike.map fun _ _ => .some

/-- What goes on alike after the same computation ends alike. -/
theorem bind_same {Same : Type} (outcome : Outcome Same) {firstLater : Same → Outcome Gamma}
    {secondLater : Same → Outcome Delta}
    (later : ∀ result, Alike relatedLater (firstLater result) (secondLater result)) :
    Alike relatedLater (outcome >>= firstLater) (outcome >>= secondLater) := by
  have reflexive : Alike Eq outcome outcome := .refl Eq.refl outcome
  refine reflexive.bind ?_
  rintro result _ rfl
  exact later result

theorem of_map_eq {form : Alpha → Beta} {first second : Outcome Alpha}
    (same : first.map form = second.map form) :
    Alike (fun result other => first = .ok result ∧ second = .ok other ∧ form result = form other)
      first second := by
  rcases first with failure | result <;> rcases second with otherFailure | other
  · obtain rfl : failure = otherFailure := by simpa [Except.map] using same
    rcases failure with error | fault
    · exact .rejected error error
    · exact .fault fault
  · simp [Except.map] at same
  · simp [Except.map] at same
  · exact .ok ⟨rfl, rfl, by simpa [Except.map] using same⟩

/-- What is kept of two items that end alike. -/
inductive Kept (related : Alpha → Beta → Prop) :
    Except QueryError Alpha → Except QueryError Beta → Prop
  | result {first : Alpha} {second : Beta} : related first second →
      Kept related (.ok first) (.ok second)
  | left (first second : QueryError) : Kept related (.error first) (.error second)

theorem contain {first : Outcome Alpha} {second : Outcome Beta} (alike : Alike related first second)
    (options : QueryOptions) :
    Alike (Kept related) (options.contain first) (options.contain second) := by
  cases alike with
  | ok resultsRelated => exact .ok (.result resultsRelated)
  | fault fault => exact .fault fault
  | rejected firstError secondError =>
      by_cases strict : options.strict
      · simpa [QueryOptions.contain, strict] using .rejected firstError secondError
      · simpa [QueryOptions.contain, strict] using .ok (.left firstError secondError)

theorem each {Item Other : Type} {options : QueryOptions} {compile : Item → Outcome Alpha}
    {compileOther : Other → Outcome Beta} {items : List Item} {others : List Other}
    (alike : List.Forall₂ (fun item other => Alike related (compile item) (compileOther other))
      items others) :
    Alike (List.Forall₂ (Kept related)) (Compose.each options compile items)
      (Compose.each options compileOther others) := by
  induction alike with
  | nil => exact .ok .nil
  | cons itemAlike _ inductionHypothesis =>
      refine (itemAlike.contain options).bind fun outcome other outcomesKept => ?_
      refine inductionHypothesis.bind fun outcomes others allKept => ?_
      exact .ok (.cons outcomesKept allKept)

end Alike

end GridQuery
