import GridQuery.Coercion
import GridQuery.Condition
import GridQuery.FieldPath
import GridQuery.MatchMode

/-!
The condition that a match mode and a requested value put on a column.  A day
stands for all its moments in a column of moments; values that constrain
nothing give no condition.  Behind a relation path the condition is one on
some linked row.
-/

namespace GridQuery

open Coercion

namespace Filter

/-- Compare by order; null, true and false have no place in an order. -/
def ordered (field : Field) (comparison : Comparison) (value : Value) : Outcome Condition :=
  match value with
  | .null | .bool _ => giveUp .unorderedConstant
  | value => .ok (.compare field comparison value)

def equality (field : Field) (negated : Bool) (value : Value) : Condition :=
  match value with
  | .null => .isNull field negated
  | .bool b => .isTruth field negated b
  | value => .compare field (if negated then .ne else .eq) value

def dayAfter (time : Moment) : Outcome Moment :=
  match time.nextDay? with
  | some next => .ok next
  | none => giveUp .pastLastDay

def daySpan (field : Field) (negated : Bool) (start : Moment) : Outcome Condition := do
  let stop ← dayAfter start
  .ok (.span field negated (.moment start) (.moment stop))

def holdsMoments (field : Field) : Bool :=
  field.column.kind == .moment

def substring (field : Field) (negated : Bool) (anchor : Anchor) (value : Value) :
    Outcome Condition :=
  match value with
  | .list _ | .object _ => refuse field.column.label .text
  | value => .like field negated anchor <$> value.text

/-- The items of a list, or a single value as the only item. -/
def itemsOf : Value → List Value
  | .list items | .tuple items | .set items => items
  | value => [value]

/-- The value is one of some items; without items there is no constraint. -/
def membership (field : Field) (negated : Bool) (value : Value) : Outcome (Option Condition) :=
  match value with
  | .object _ => refuse field.column.label .list
  | value => do
      let values ← ((itemsOf value).filter (!·.isNull)).mapM (coerce field.column)
      .ok (if values.isEmpty then none else some (.among field negated values))

def bound? (field : Field) (raw : Value) : Outcome (Option Value) :=
  match raw with
  | .null => .ok none
  | .str s => if s.isEmpty then .ok none else some <$> coerce field.column raw
  | raw => some <$> coerce field.column raw

def closedRange (field : Field) (low high : Option Value) : Outcome (Option Condition) :=
  match low, high with
  | some low, some high => .ok (some (.between field low high))
  | some low, none => some <$> ordered field .ge low
  | none, some high => some <$> ordered field .le high
  | none, none => .ok none

/-- Between two bounds; a day as the upper bound of moments includes all of it. -/
def range (field : Field) (rawLow rawHigh : Value) : Outcome (Option Condition) := do
  let low ← bound? field rawLow
  let high ← bound? field rawHigh
  match high with
  | some (.moment start) =>
      if holdsMoments field && namesDay rawHigh then
        let stop ← dayAfter start
        match low with
        | none => some <$> ordered field .lt (.moment stop)
        | some low => .ok (some (.span field false low (.moment stop)))
      else closedRange field low high
  | high => closedRange field low high

/-- Between the two items of a pair. -/
def rangeOf (field : Field) (value : Value) : Outcome (Option Condition) :=
  match value with
  | .list [low, high] | .tuple [low, high] => range field low high
  | _ => refuse field.column.label .range

inductive DayRelation where
  | on
  | notOn
  | before
  | after

def byDay (field : Field) (relation : DayRelation) (value : Value) : Outcome Condition := do
  let day ← toDate field.column.label value
  match field.column.kind with
  | .moment =>
      let start := Moment.startOf day
      let stop ← dayAfter start
      match relation with
      | .on => .ok (.span field false (.moment start) (.moment stop))
      | .notOn => .ok (.span field true (.moment start) (.moment stop))
      | .before => .ok (.compare field .lt (.moment start))
      | .after => .ok (.compare field .ge (.moment stop))
  | .date =>
      let comparison := match relation with
        | .on => Comparison.eq
        | .notOn => .ne
        | .before => .lt
        | .after => .gt
      .ok (.compare field comparison (.date day))
  | _ => refuse field.column.label .dateColumn

def scalar (field : Field) (value : Value) : Outcome Value :=
  match value with
  | .list _ | .object _ => refuse field.column.label .scalar
  | value => coerce field.column value

/-- Equal to a value or not; a day in a column of moments means all of it. -/
def equal (field : Field) (negated : Bool) (value : Value) : Outcome Condition := do
  match ← scalar field value with
  | .moment start =>
      if holdsMoments field && namesDay value then daySpan field negated start
      else .ok (equality field negated (.moment start))
  | coerced => .ok (equality field negated coerced)

def byOrder (field : Field) (comparison : Comparison) (value : Value) : Outcome Condition := do
  ordered field comparison (← scalar field value)

def build (field : Field) (mode : MatchMode) (value : Value) : Outcome (Option Condition) :=
  match mode with
  | .contains => some <$> substring field false .anywhere value
  | .notContains => some <$> substring field true .anywhere value
  | .startsWith => some <$> substring field false .start value
  | .endsWith => some <$> substring field false .finish value
  | .dateIs => some <$> byDay field .on value
  | .dateIsNot => some <$> byDay field .notOn value
  | .dateBefore => some <$> byDay field .before value
  | .dateAfter => some <$> byDay field .after value
  | .isIn => membership field false value
  | .notIn => membership field true value
  | .between => rangeOf field value
  | .equals => some <$> equal field false value
  | .notEquals => some <$> equal field true value
  | .lt => some <$> byOrder field .lt value
  | .lte => some <$> byOrder field .le value
  | .gt => some <$> byOrder field .gt value
  | .gte => some <$> byOrder field .ge value

/-- The condition on a row from which a path starts, given one on the row it leads to. -/
def throughHops (hops : List Linkage) (condition : Condition) : Condition :=
  hops.foldr .related condition

def compile (path : FieldPath) (mode : MatchMode) (value : Value) : Outcome (Option Condition) := do
  let condition ← build path.field mode value
  .ok (condition.map (throughHops path.hops))

def compileRaw (path : FieldPath) (operator value : Value) : Outcome (Option Condition) := do
  let mode ← MatchMode.read operator (some path.name)
  compile path mode value

end Filter

end GridQuery
