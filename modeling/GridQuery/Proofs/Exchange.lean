import GridQuery.Filter
import GridQuery.Proofs.Selection
import Mathlib.Data.List.Forall2

/-!
Conditions that can stand for each other.  The store takes both or neither, and
both are true of the same rows, so a query restricted by the one has the rows of
the query restricted by the other.
-/

namespace GridQuery

open Store

namespace Condition

/-- Two conditions that the store takes alike and that have the same truth everywhere. -/
structure Exchanges (first second : Condition) : Prop where
  stored : (∃ parameters, parameters? first = some parameters ∧
      Parameter.firstFault? parameters = none) ↔
    ∃ parameters, parameters? second = some parameters ∧ Parameter.firstFault? parameters = none
  resolves : ∀ tables, Names.conditionResolves tables first = Names.conditionResolves tables second
  truth : ∀ database environment,
    Store.truth database environment first = Store.truth database environment second

namespace Exchanges

variable {first second : Condition}

theorem accepts_iff (exchanges : Exchanges first second) (table : String) :
    Accepts table first ↔ Accepts table second := by
  rw [Accepts, Accepts, exchanges.stored, exchanges.resolves]

theorem related (exchanges : Exchanges first second) (link : Linkage) :
    Exchanges (.related link first) (.related link second) where
  stored := exchanges.stored
  resolves tables := congrArg (_ && ·) (exchanges.resolves _)
  truth database environment := by simp only [Store.truth, exchanges.truth]

theorem throughHops (exchanges : Exchanges first second) (hops : List Linkage) :
    Exchanges (Filter.throughHops hops first) (Filter.throughHops hops second) := by
  induction hops with
  | nil => exact exchanges
  | cons link later inductionHypothesis => exact inductionHypothesis.related link

end Exchanges

end Condition

namespace Store

variable {query : Query} {conditions others : List Condition}

theorem flatMap_conditionsOf_restrictAll (query : Query) (conditions : List Condition) :
    (query.restrictAll conditions).restrictions.flatMap conditionsOf =
      query.restrictions.flatMap conditionsOf ++ conditions := by
  simp [Query.restrictAll, conditionsOf, List.flatMap_map]

theorem select_restrictAll (database : Database) (query : Query) (conditions : List Condition) :
    select database (query.restrictAll conditions) =
      (select database query).filter fun row =>
        conditions.all (holds database (.ofRow query.model.table.name row)) := by
  rw [Query.restrictAll, select_append]
  simp [List.all_map, Function.comp_def, meets]

section Exchange

variable (exchange : List.Forall₂ Condition.Exchanges conditions others)

include exchange

theorem forall_accepts_exchange (table : String) :
    (∀ condition ∈ conditions, Accepts table condition) ↔
      ∀ condition ∈ others, Accepts table condition := by
  induction exchange with
  | nil => rfl
  | cons exchanges _ inductionHypothesis =>
      simp only [List.forall_mem_cons, exchanges.accepts_iff, inductionHypothesis]

theorem all_holds_exchange (database : Database) (environment : Environment) :
    conditions.all (holds database environment) = others.all (holds database environment) := by
  induction exchange with
  | nil => rfl
  | cons exchanges _ inductionHypothesis =>
      rw [List.all_cons, List.all_cons, inductionHypothesis, holds, holds, exchanges.truth]

/-- Restricted by conditions that can stand for each other, a query has the same rows. -/
theorem rows_exchange (query : Query) (database : Database) (found : List Row) :
    rows database (query.restrictAll conditions) = .ok found ↔
      rows database (query.restrictAll others) = .ok found := by
  have selected : sorted database (query.restrictAll conditions) =
      sorted database (query.restrictAll others) := by
    simp only [sorted, select_restrictAll, all_holds_exchange exchange]
    rfl
  rw [rows_eq_ok_iff, rows_eq_ok_iff, checkRestrictions_eq_ok_iff, checkRestrictions_eq_ok_iff,
    flatMap_conditionsOf_restrictAll, flatMap_conditionsOf_restrictAll, List.forall_mem_append,
    List.forall_mem_append, selected]
  exact and_congr_left' (and_congr_right' (forall_accepts_exchange exchange _))

end Exchange

end Store

end GridQuery
