import GridQuery.Schema.Linkage
import GridQuery.Value.Basic

/-!
Conditions on a row.  A condition compares columns with constants, or asks for
a linked row that meets another condition.  A query restricts its rows by
conditions that must hold and by groups of which one condition must hold.
-/

namespace GridQuery

inductive Comparison where
  | eq
  | ne
  | lt
  | le
  | gt
  | ge
  deriving DecidableEq, Repr

inductive Anchor where
  | anywhere
  | start
  | finish
  deriving DecidableEq, Repr

/-- A condition on a row. -/
inductive Condition where
  | compare (field : Field) (comparison : Comparison) (value : Value)
  | isNull (field : Field) (negated : Bool)
  | isTruth (field : Field) (negated : Bool) (truth : Bool)
  | between (field : Field) (low high : Value)
  /-- At or after `low` and before `high`, or not so. -/
  | span (field : Field) (negated : Bool) (low high : Value)
  | among (field : Field) (negated : Bool) (values : List Value)
  | like (field : Field) (negated : Bool) (anchor : Anchor) (text : String)
  /-- A row linked with this one meets the condition. -/
  | related (link : Linkage) (inner : Condition)
  deriving Repr

inductive Restriction where
  | holds (condition : Condition)
  | someOf (conditions : List Condition)
  deriving Repr

/-- What the rows are ordered by: a column, or a column at the end of some relations. -/
structure SortKey where
  hops : List Linkage
  field : Field
  deriving DecidableEq, Repr

structure SortTerm where
  key : SortKey
  descending : Bool
  deriving DecidableEq, Repr

structure Query where
  model : Model
  restrictions : List Restriction := []
  order : List SortTerm := []
  deriving Repr

namespace Query

def restrict (query : Query) (restriction : Restriction) : Query :=
  { query with restrictions := query.restrictions ++ [restriction] }

def restrictAll (query : Query) (conditions : List Condition) : Query :=
  { query with restrictions := query.restrictions ++ conditions.map .holds }

/-- Order the rows that are equal so far by another key. -/
def orderBy (query : Query) (term : SortTerm) : Query :=
  { query with order := query.order ++ [term] }

end Query

end GridQuery
