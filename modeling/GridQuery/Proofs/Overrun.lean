import GridQuery.Proofs.Faults
import GridQuery.Proofs.HugeText

/-!
Which filters overrun.  A filter with a bad value is refused, but some values
end the work instead: integers beyond the doubles, values that are read by
their texts and have none, the last day of the calendar where the following one
is needed, and truth values that are to be compared by order.  The main
statement says that there are no others.
-/

namespace GridQuery

namespace MatchMode

def dayModes : List MatchMode := [dateIs, dateIsNot, dateBefore, dateAfter]

def listModes : List MatchMode := [isIn, notIn]

def equalityModes : List MatchMode := [equals, notEquals]

def orderModes : List MatchMode := [lt, lte, gt, gte]

end MatchMode

open MatchMode

namespace Filter

def isConstant : Value → Bool
  | .null | .bool _ => true
  | _ => false

/-- A bound that is given: it is neither null nor an empty text. -/
def isGiven : Value → Bool
  | .null => false
  | .str s => !s.isEmpty
  | _ => true

def pair? : Value → Option (Value × Value)
  | .list [low, high] | .tuple [low, high] => some (low, high)
  | _ => none

/-- What a mode brings to the kind of its column: the items of a list, the given bounds of a pair,
or a single value. -/
def operands (mode : MatchMode) (value : Value) : List Value :=
  match mode with
  | .isIn | .notIn =>
      match value with
      | .object _ => []
      | value => (itemsOf value).filter (!·.isNull)
  | .between => (pair? value).toList.flatMap fun pair => [pair.1, pair.2].filter isGiven
  | .equals | .notEquals | .lt | .lte | .gt | .gte =>
      match value with
      | .list _ | .object _ => []
      | value => [value]
  | _ => []

/-- The values that a column of a kind reads by their texts, if it is not of their own kind. -/
def readsText (kind : ColumnKind) (value : Value) : Bool :=
  match kind with
  | .text =>
      match value with
      | .list _ | .object _ => false
      | _ => true
  | .integer | .real | .numeric =>
      match value with
      | .int _ => false
      | _ => true
  | .boolean | .date | .moment => true
  | .uuid | .time | .interval | .json | .bytes | .untyped => false

/-- The values that end the work when they are brought to the kind of a column, and the fault. -/
inductive Unreadable (column : Column) : Value → Fault → Prop
  | hugeInteger {n : Int} (real : column.kind = .real)
      (huge : (Double.ofInt n).isFinite = false) : Unreadable column (.int n) .hugeDouble
  | unwritten {value : Value} (read : readsText column.kind value = true)
      (noText : value.text? = none) : Unreadable column value .hugeText

/-- The values with which a mode ends the work on a column, and the fault. -/
inductive Overruns (field : Field) : MatchMode → Value → Fault → Prop
  | operand {mode : MatchMode} {value item : Value} {before after : List Value} {fault : Fault}
      (operand : operands mode value = before ++ item :: after)
      (earlier : ∀ other ∈ before, ∃ coerced, coerce field.column other = .ok coerced)
      (unreadable : Unreadable field.column item fault) : Overruns field mode value fault
  | unwrittenText {mode : MatchMode} {value : Value}
      (substring : mode ∈ substringModes)
      (read : readsText .text value = true)
      (noText : value.text? = none) : Overruns field mode value .hugeText
  | unwrittenDay {mode : MatchMode} {value : Value}
      (byDay : mode ∈ dayModes)
      (noText : value.text? = none) : Overruns field mode value .hugeText
  | unordered {mode : MatchMode} {value coerced : Value}
      (byOrder : mode ∈ orderModes)
      (reads : scalar field value = .ok coerced)
      (constant : isConstant coerced = true) : Overruns field mode value .unorderedConstant
  | unorderedBound {value bound coerced : Value}
      (alone : operands .between value = [bound])
      (reads : coerce field.column bound = .ok coerced)
      (constant : isConstant coerced = true) : Overruns field .between value .unorderedConstant
  | lastDay {mode : MatchMode} {value : Value} {start : Moment}
      (equality : mode ∈ equalityModes)
      (moments : field.column.kind = .moment)
      (day : namesDay value = true)
      (reads : scalar field value = .ok (.moment start))
      (last : start.date = .last) : Overruns field mode value .pastLastDay
  | lastUpperDay {value low high : Value} {start : Moment} {lowest : Option Value}
      (pair : pair? value = some (low, high))
      (moments : field.column.kind = .moment)
      (lower : bound? field low = .ok lowest)
      (day : namesDay high = true)
      (reads : coerce field.column high = .ok (.moment start))
      (last : start.date = .last) : Overruns field .between value .pastLastDay
  | lastDayOf {mode : MatchMode} {value : Value}
      (byDay : mode ∈ dayModes)
      (moments : field.column.kind = .moment)
      (reads : Coercion.toDate field.column.label value = .ok .last) :
      Overruns field mode value .pastLastDay

end Filter

namespace Coercion

variable {fault : Fault} {value : Value}

theorem givenText?_eq_none_iff : givenText? value = none ↔ value.text? = none := by
  rw [givenText?, Option.map_eq_none_iff, Value.orElse]
  split
  · rfl
  · next untruthy =>
      constructor
      · intro noText
        simp [Value.text?] at noText
      · intro noText
        exact absurd (Value.text?_eq_none_iff.mp noText).isTruthy untruthy

theorem fault?_text_eq_some_iff :
    fault? value.text = some fault ↔ value.text? = none ∧ fault = .hugeText :=
  fault?_written_eq_some_iff

theorem fault?_readNumber {Number : Type} (label : String) (read? : String → Option Number)
    (value : Value) : fault? (readNumber label read? value) = fault? value.text := by
  apply fault?_bind_of_sound
  intro text
  dsimp only
  split
  · rfl
  · split <;> rfl

theorem fault?_toInteger_eq_some_iff {label : String} :
    fault? (toInteger label value) = some fault ↔
      Filter.readsText .integer value = true ∧ value.text? = none ∧ fault = .hugeText := by
  cases value with
  | null | bool | int => simp [toInteger, Value.text?, Value.literal?, Filter.readsText]
  | float x =>
      have sound : fault? (toInteger label (.float x)) = none := by
        unfold toInteger
        dsimp only
        split
        · split <;> rfl
        · rfl
      simp [sound, Value.text?, Value.literal?]
  | _ =>
      unfold toInteger
      simp [fault?_readNumber, fault?_text_eq_some_iff, Filter.readsText]

theorem fault?_toNumeric_eq_some_iff {label : String} :
    fault? (toNumeric label value) = some fault ↔
      Filter.readsText .numeric value = true ∧ value.text? = none ∧ fault = .hugeText := by
  cases value with
  | null | bool | int | decimal =>
      simp [toNumeric, Value.text?, Value.literal?, Filter.readsText]
  | _ =>
      unfold toNumeric
      simp [fault?_readNumber, fault?_text_eq_some_iff, Filter.readsText]

theorem fault?_toReal_eq_some_iff {label : String} :
    fault? (toReal label value) = some fault ↔
      (fault = .hugeDouble ∧ ∃ n, value = .int n ∧ (Double.ofInt n).isFinite = false) ∨
        Filter.readsText .real value = true ∧ value.text? = none ∧ fault = .hugeText := by
  cases value with
  | int n =>
      unfold toReal
      dsimp only
      by_cases finite : (Double.ofInt n).isFinite = true
      · simp [finite, Filter.readsText]
      · rw [if_neg finite]
        rw [Bool.not_eq_true] at finite
        simp only [fault?_giveUp, Option.some.injEq, Value.int.injEq, exists_eq_left', finite,
          and_true, Filter.readsText, Bool.false_eq_true, false_and, or_false]
        exact eq_comm
  | null | bool | float => simp [toReal, Value.text?, Value.literal?]
  | _ =>
      unfold toReal
      simp [fault?_readNumber, fault?_text_eq_some_iff, Filter.readsText]

theorem fault?_toBool_eq_some_iff {label : String} :
    fault? (toBool label value) = some fault ↔ value.text? = none ∧ fault = .hugeText := by
  rw [← fault?_text_eq_some_iff]
  cases value with
  | bool b => cases b <;> rfl
  | _ =>
      unfold toBool
      rw [fault?_bind_of_sound]
      · rfl
      · intro text
        split <;> rfl

theorem fault?_toUuid (label : String) (value : Value) : fault? (toUuid label value) = none := by
  cases value with
  | uuid => rfl
  | _ =>
      unfold toUuid
      dsimp only
      split <;> rfl

theorem fault?_toDate_eq_some_iff {label : String} :
    fault? (toDate label value) = some fault ↔ value.text? = none ∧ fault = .hugeText := by
  cases value with
  | date | moment => simp [toDate, Value.text?]
  | _ =>
      unfold toDate
      rw [fault?_bind_of_sound, fault?_written_eq_some_iff, givenText?_eq_none_iff]
      intro text
      dsimp only
      split <;> rfl

theorem fault?_toMoment_eq_some_iff {label : String} :
    fault? (toMoment label value) = some fault ↔ value.text? = none ∧ fault = .hugeText := by
  cases value with
  | moment => simp [toMoment, Value.text?]
  | _ =>
      unfold toMoment
      rw [fault?_bind_of_sound, fault?_written_eq_some_iff, givenText?_eq_none_iff]
      intro text
      split <;> rfl

theorem fault?_toText_eq_some_iff {label : String} :
    fault? (toText label value) = some fault ↔
      Filter.readsText .text value = true ∧ value.text? = none ∧ fault = .hugeText := by
  cases value with
  | list | object => simp [toText, Filter.readsText]
  | _ => simp [toText, fault?_text_eq_some_iff, Filter.readsText]

end Coercion

open Coercion

section Conditions

variable {column : Column} {field : Field} {value : Value} {fault : Fault}

/-- Only an integer beyond the doubles, or a value without a text that is read by its text, cannot
be brought to the kind of a column or refused. -/
theorem fault?_coerce_eq_some_iff :
    fault? (coerce column value) = some fault ↔ Filter.Unreadable column value fault := by
  have opened : Filter.Unreadable column value fault ↔
      (column.kind = .real ∧ fault = .hugeDouble ∧
        ∃ n, value = .int n ∧ (Double.ofInt n).isFinite = false) ∨
      Filter.readsText column.kind value = true ∧ value.text? = none ∧ fault = .hugeText := by
    constructor
    · rintro (⟨real, huge⟩ | ⟨read, noText⟩)
      · exact .inl ⟨real, rfl, _, rfl, huge⟩
      · exact .inr ⟨read, noText, rfl⟩
    · rintro (⟨real, rfl, n, rfl, huge⟩ | ⟨read, noText, rfl⟩)
      · exact .hugeInteger real huge
      · exact .unwritten read noText
  rw [opened, coerce]
  cases column.kind with
  | real => simp [fault?_toReal_eq_some_iff]
  | text => simp [fault?_toText_eq_some_iff]
  | integer => simp [fault?_toInteger_eq_some_iff]
  | numeric => simp [fault?_toNumeric_eq_some_iff]
  | boolean => simp [fault?_toBool_eq_some_iff, Filter.readsText]
  | date => simp [fault?_toDate_eq_some_iff, Filter.readsText]
  | moment => simp [fault?_toMoment_eq_some_iff, Filter.readsText]
  | uuid => simp [fault?_toUuid, Filter.readsText]
  | time | interval | json | bytes | untyped => simp [Filter.readsText]

namespace Filter

theorem fault?_operands_eq_some_iff {mode : MatchMode} :
    fault? ((operands mode value).mapM (coerce field.column)) = some fault ↔
      ∃ before item after, operands mode value = before ++ item :: after ∧
        (∀ other ∈ before, ∃ coerced, coerce field.column other = .ok coerced) ∧
        Unreadable field.column item fault := by
  simp only [fault?_mapM_eq_some_iff, fault?_coerce_eq_some_iff]

theorem overruns_of_operands {mode : MatchMode}
    (faulty : fault? ((operands mode value).mapM (coerce field.column)) = some fault) :
    Overruns field mode value fault := by
  obtain ⟨before, item, after, same, earlier, unreadable⟩ := fault?_operands_eq_some_iff.mp faulty
  exact .operand same earlier unreadable

theorem fault?_mapM_singleton (value : Value) :
    fault? ([value].mapM (coerce column)) = fault? (coerce column value) := by
  rw [List.mapM_cons, List.mapM_nil]
  rcases coerce column value with (error | fault) | coerced <;> rfl

theorem fault?_dayAfter_eq_some_iff {time : Moment} :
    fault? (dayAfter time) = some fault ↔ fault = .pastLastDay ∧ time.date = .last := by
  have noNext : time.nextDay? = none ↔ time.date = .last := by
    rw [Moment.nextDay?, Option.map_eq_none_iff, Date.next?_eq_none_iff]
    obtain ⟨⟨year, month, day, isDay⟩, clock, offset⟩ := time
    simp [Date.last]
  unfold dayAfter
  cases next : time.nextDay? with
  | some later => simp [← noNext, next]
  | none => simp [← noNext, next, eq_comm]

theorem exists_of_dayAfter {start stop : Moment} (following : dayAfter start = .ok stop) :
    ∃ date, start.date.next? = some date ∧ stop = { start with date } := by
  unfold dayAfter Moment.nextDay? at following
  cases next : start.date.next? with
  | none => simp [next, giveUp] at following
  | some date => exact ⟨date, rfl, by simpa [next] using following.symm⟩

theorem fault?_ordered_eq_some_iff {comparison : Comparison} :
    fault? (ordered field comparison value) = some fault ↔
      fault = .unorderedConstant ∧ isConstant value = true := by
  cases value <;> simp [ordered, isConstant, eq_comm]

theorem fault?_substring_eq_some_iff {negated : Bool} {anchor : Anchor} :
    fault? (substring field negated anchor value) = some fault ↔
      readsText .text value = true ∧ value.text? = none ∧ fault = .hugeText := by
  cases value with
  | list | object => simp [substring, readsText]
  | _ => simp [substring, fault?_text_eq_some_iff, readsText]

theorem fault?_byDay_eq_some_iff {relation : DayRelation} :
    fault? (byDay field relation value) = some fault ↔
      (value.text? = none ∧ fault = .hugeText) ∨
        fault = .pastLastDay ∧ field.column.kind = .moment ∧
          toDate field.column.label value = .ok .last := by
  unfold byDay
  rw [fault?_bind_eq_some_iff, fault?_toDate_eq_some_iff]
  refine or_congr Iff.rfl ⟨?_, ?_⟩
  · rintro ⟨day, reads, compared⟩
    · split at compared
      · next moments =>
          rw [fault?_bind_eq_some_iff, fault?_dayAfter_eq_some_iff] at compared
          rcases compared with ⟨rfl, last⟩ | ⟨stop, -, result⟩
          · obtain rfl : day = .last := last
            exact ⟨rfl, moments, reads⟩
          · cases relation <;> simp at result
      · simp at compared
      · simp at compared
  · rintro ⟨rfl, moments, reads⟩
    refine ⟨.last, reads, ?_⟩
    rw [moments]
    dsimp only
    rw [fault?_bind_eq_some_iff, fault?_dayAfter_eq_some_iff]
    exact .inl ⟨rfl, rfl⟩

theorem fault?_scalar {mode : MatchMode}
    (single : mode ∈ equalityModes ++ orderModes) :
    fault? (scalar field value) = fault? ((operands mode value).mapM (coerce field.column)) := by
  have sameOperands : operands mode value = operands .equals value := by
    simp only [equalityModes, orderModes, List.cons_append, List.nil_append, List.mem_cons,
      List.not_mem_nil, or_false] at single
    rcases single with rfl | rfl | rfl | rfl | rfl | rfl <;> rfl
  rw [sameOperands]
  cases value with
  | list | object => rfl
  | _ => exact (fault?_mapM_singleton _).symm

theorem fault?_byOrder_eq_some_iff (mode : MatchMode) {comparison : Comparison}
    (order : mode ∈ orderModes) :
    fault? (byOrder field comparison value) = some fault ↔
      fault? ((operands mode value).mapM (coerce field.column)) = some fault ∨
        fault = .unorderedConstant ∧
          ∃ coerced, scalar field value = .ok coerced ∧ isConstant coerced = true := by
  rw [byOrder, fault?_bind_eq_some_iff, fault?_scalar (List.mem_append_right _ order)]
  simp only [fault?_ordered_eq_some_iff]
  grind

theorem fault?_equal_eq_some_iff (mode : MatchMode) {negated : Bool}
    (equality : mode ∈ equalityModes) :
    fault? (equal field negated value) = some fault ↔
      fault? ((operands mode value).mapM (coerce field.column)) = some fault ∨
        fault = .pastLastDay ∧ field.column.kind = .moment ∧ namesDay value = true ∧
          ∃ start, scalar field value = .ok (.moment start) ∧ start.date = .last := by
  rw [equal, fault?_bind_eq_some_iff, fault?_scalar (List.mem_append_left _ equality)]
  apply or_congr Iff.rfl
  constructor
  · rintro ⟨coerced, reads, compared⟩
    split at compared
    · next start =>
        split at compared
        · next day =>
            simp only [holdsMoments, Bool.and_eq_true, beq_iff_eq] at day
            rw [daySpan, fault?_bind_eq_some_iff, fault?_dayAfter_eq_some_iff] at compared
            rcases compared with ⟨rfl, last⟩ | ⟨stop, -, result⟩
            · exact ⟨rfl, day.1, day.2, start, reads, last⟩
            · simp at result
        · simp at compared
    · simp at compared
  · rintro ⟨rfl, moments, day, start, reads, last⟩
    refine ⟨_, reads, ?_⟩
    dsimp only
    rw [if_pos (by simp [holdsMoments, moments, day]), daySpan, fault?_bind_eq_some_iff,
      fault?_dayAfter_eq_some_iff]
    exact .inl ⟨rfl, last⟩

theorem fault?_membership (mode : MatchMode) {negated : Bool} (list : mode ∈ listModes) :
    fault? (membership field negated value) =
      fault? ((operands mode value).mapM (coerce field.column)) := by
  have sameOperands : operands mode value = operands .isIn value := by
    simp only [listModes, List.mem_cons, List.not_mem_nil, or_false] at list
    rcases list with rfl | rfl <;> rfl
  rw [sameOperands]
  unfold membership operands
  cases value with
  | object => rfl
  | _ => exact fault?_bind_ok _ _

theorem bound?_eq (raw : Value) :
    bound? field raw = if isGiven raw then some <$> coerce field.column raw else .ok none := by
  cases raw with
  | str s => by_cases empty : s.isEmpty = true <;> simp [bound?, isGiven, empty]
  | _ => rfl

theorem isGiven_of_namesDay {raw : Value} (day : namesDay raw = true) : isGiven raw = true := by
  cases raw with
  | date => rfl
  | str s =>
      by_contra missing
      obtain rfl : s = "" := by simpa [isGiven] using missing
      exact absurd day (by decide)
  | _ => simp [namesDay] at day

theorem fault?_closedRange_eq_some_iff {low high : Option Value} :
    fault? (closedRange field low high) = some fault ↔
      fault = .unorderedConstant ∧ ∃ bound, isConstant bound = true ∧
        (low = some bound ∧ high = none ∨ low = none ∧ high = some bound) := by
  unfold closedRange
  split <;> simp [fault?_ordered_eq_some_iff]

theorem fault?_bounds_eq_some_iff {low high : Value} :
    fault? (([low, high].filter isGiven).mapM (coerce field.column)) = some fault ↔
      fault? (bound? field low) = some fault ∨
        ∃ lowest, bound? field low = .ok lowest ∧ fault? (bound? field high) = some fault := by
  have pairOf (outcome : Outcome Value) :
      fault? (outcome >>= fun first => do
        let rest ← List.mapM (coerce field.column) [high]
        pure (first :: rest)) = some fault ↔
      fault? outcome = some fault ∨
        ∃ first, outcome = .ok first ∧ fault? (coerce field.column high) = some fault := by
    rw [fault?_bind_eq_some_iff]
    simp only [pure, Except.pure, fault?_bind_ok, fault?_mapM_singleton]
  by_cases lowGiven : isGiven low = true
  · by_cases highGiven : isGiven high = true
    · simp only [List.filter_cons, lowGiven, highGiven, if_true, List.filter_nil, bound?_eq,
        fault?_map, List.mapM_cons (a := low), pairOf]
      rcases coerce field.column low with failure | coerced <;> simp [Functor.map, Except.map]
    · rw [List.filter_cons_of_pos lowGiven, List.filter_cons_of_neg highGiven, List.filter_nil,
        fault?_mapM_singleton, bound?_eq, bound?_eq, if_pos lowGiven, if_neg highGiven]
      simp
  · by_cases highGiven : isGiven high = true
    · rw [List.filter_cons_of_neg lowGiven, List.filter_cons_of_pos highGiven, List.filter_nil,
        fault?_mapM_singleton, bound?_eq, bound?_eq, if_neg lowGiven, if_pos highGiven]
      simp
    · rw [List.filter_cons_of_neg lowGiven, List.filter_cons_of_neg highGiven, List.filter_nil,
        bound?_eq, bound?_eq, if_neg lowGiven, if_neg highGiven]
      simp [pure, Except.pure]

theorem bound?_eq_some_iff {raw coerced : Value} :
    bound? field raw = .ok (some coerced) ↔
      isGiven raw = true ∧ coerce field.column raw = .ok coerced := by
  rw [bound?_eq]
  by_cases given : isGiven raw = true
  · rw [if_pos given, map_some_eq_ok_iff]
    simp [given]
  · rw [if_neg given]
    simp [given]

theorem bound?_eq_none_iff {raw : Value} : bound? field raw = .ok none ↔ isGiven raw = false := by
  rw [bound?_eq]
  by_cases given : isGiven raw = true
  · simp [given, map_eq_ok_iff]
  · rw [if_neg given]
    simpa using given

section Ranges

variable {low high : Value}

/-- Once its bounds are read, a range fails for the day after an upper day, or for the order of a
bound that stands alone. -/
theorem cause_of_bounds {lowest highest : Option Value} (lower : bound? field low = .ok lowest)
    (upper : bound? field high = .ok highest)
    (faulty : fault? (range field low high) = some fault) :
    (fault = .pastLastDay ∧ field.column.kind = .moment ∧ namesDay high = true ∧
        ∃ start, coerce field.column high = .ok (.moment start) ∧ start.date = .last) ∨
      (fault = .unorderedConstant ∧ ∃ bound coerced, [low, high].filter isGiven = [bound] ∧
        coerce field.column bound = .ok coerced ∧ isConstant coerced = true) := by
  rw [range, lower, upper] at faulty
  simp only [bind, Except.bind] at faulty
  split at faulty
  · next start =>
      obtain ⟨highGiven, reads⟩ := bound?_eq_some_iff.mp upper
      split at faulty
      · next day =>
          simp only [holdsMoments, Bool.and_eq_true, beq_iff_eq] at day
          change fault? (dayAfter start >>= _) = some fault at faulty
          rw [fault?_bind_eq_some_iff, fault?_dayAfter_eq_some_iff] at faulty
          rcases faulty with ⟨rfl, last⟩ | ⟨stop, -, faulty⟩
          · exact .inl ⟨rfl, day.1, day.2, start, reads, last⟩
          · cases lowest <;> simp [ordered] at faulty
      · -- An upper bound that is a moment has a place in an order, alone or not.
        obtain ⟨-, bound, constant, alone⟩ := fault?_closedRange_eq_some_iff.mp faulty
        rcases alone with ⟨-, impossible⟩ | ⟨-, same⟩
        · simp at impossible
        · obtain rfl : .moment start = bound := by simpa using same
          simp [isConstant] at constant
  · obtain ⟨rfl, coerced, constant, alone⟩ := fault?_closedRange_eq_some_iff.mp faulty
    refine .inr ⟨rfl, ?_⟩
    rcases alone with ⟨rfl, rfl⟩ | ⟨rfl, rfl⟩
    · obtain ⟨lowGiven, reads⟩ := bound?_eq_some_iff.mp lower
      have highMissing := bound?_eq_none_iff.mp upper
      exact ⟨low, coerced, by simp [lowGiven, highMissing], reads, constant⟩
    · obtain ⟨highGiven, reads⟩ := bound?_eq_some_iff.mp upper
      have lowMissing := bound?_eq_none_iff.mp lower
      exact ⟨high, coerced, by simp [highGiven, lowMissing], reads, constant⟩

theorem fault?_range_of_bounds
    (faulty : fault? (([low, high].filter isGiven).mapM (coerce field.column)) = some fault) :
    fault? (range field low high) = some fault := by
  rw [range, fault?_bind_eq_some_iff]
  rcases fault?_bounds_eq_some_iff.mp faulty with below | ⟨lowest, lower, above⟩
  · exact .inl below
  · exact .inr ⟨lowest, lower, fault?_bind_eq_some_iff.mpr (.inl above)⟩

theorem fault?_range_of_lastDay {lowest : Option Value} {start : Moment}
    (moments : field.column.kind = .moment) (lower : bound? field low = .ok lowest)
    (day : namesDay high = true) (reads : coerce field.column high = .ok (.moment start))
    (last : start.date = .last) : fault? (range field low high) = some .pastLastDay := by
  have upper : bound? field high = .ok (some (.moment start)) :=
    bound?_eq_some_iff.mpr ⟨isGiven_of_namesDay day, reads⟩
  simp only [range, fault?_bind_eq_some_iff]
  refine .inr ⟨lowest, lower, .inr ⟨_, upper, ?_⟩⟩
  dsimp only
  rw [if_pos (by simp [holdsMoments, moments, day]), fault?_bind_eq_some_iff,
    fault?_dayAfter_eq_some_iff]
  exact .inl ⟨rfl, last⟩

theorem fault?_range_of_constant {bound coerced : Value}
    (alone : [low, high].filter isGiven = [bound]) (reads : coerce field.column bound = .ok coerced)
    (constant : isConstant coerced = true) :
    fault? (range field low high) = some .unorderedConstant := by
  simp only [range, fault?_bind_eq_some_iff]
  by_cases lowGiven : isGiven low = true
  · have highMissing : isGiven high = false := by
      by_contra highGiven
      rw [Bool.not_eq_false] at highGiven
      simp [lowGiven, highGiven] at alone
    obtain rfl : low = bound := by simpa [lowGiven, highMissing] using alone
    refine .inr ⟨some coerced, bound?_eq_some_iff.mpr ⟨lowGiven, reads⟩, .inr ⟨none, ?_, ?_⟩⟩
    · exact bound?_eq_none_iff.mpr highMissing
    · exact fault?_closedRange_eq_some_iff.mpr ⟨rfl, coerced, constant, .inl ⟨rfl, rfl⟩⟩
  · rw [Bool.not_eq_true] at lowGiven
    have highGiven : isGiven high = true := by
      by_contra missing
      simp [lowGiven, missing] at alone
    obtain rfl : high = bound := by simpa [lowGiven, highGiven] using alone
    refine .inr ⟨none, bound?_eq_none_iff.mpr lowGiven, .inr ⟨some coerced, ?_, ?_⟩⟩
    · exact bound?_eq_some_iff.mpr ⟨highGiven, reads⟩
    · have closed : fault? (closedRange field none (some coerced)) = some .unorderedConstant :=
        fault?_closedRange_eq_some_iff.mpr ⟨rfl, coerced, constant, .inr ⟨rfl, rfl⟩⟩
      cases coerced with
      | moment => simp [isConstant] at constant
      | _ => exact closed

/-- Beyond its bounds a range needs the day after an upper day, and an order for a bound that stands
alone. -/
theorem fault?_range_eq_some_iff :
    fault? (range field low high) = some fault ↔
      fault? (([low, high].filter isGiven).mapM (coerce field.column)) = some fault ∨
      (fault = .pastLastDay ∧ field.column.kind = .moment ∧ namesDay high = true ∧
        (∃ lowest, bound? field low = .ok lowest) ∧
        ∃ start, coerce field.column high = .ok (.moment start) ∧ start.date = .last) ∨
      (fault = .unorderedConstant ∧ ∃ bound coerced, [low, high].filter isGiven = [bound] ∧
        coerce field.column bound = .ok coerced ∧ isConstant coerced = true) := by
  constructor
  · intro faulty
    rw [fault?_bounds_eq_some_iff]
    have opened := faulty
    simp only [range, fault?_bind_eq_some_iff] at opened
    rcases opened with below | ⟨lowest, lower, above | ⟨highest, upper, -⟩⟩
    · exact .inl (.inl below)
    · exact .inl (.inr ⟨lowest, lower, above⟩)
    · refine .inr ?_
      rcases cause_of_bounds lower upper faulty with ⟨rfl, moments, day, late⟩ | alone
      · exact .inl ⟨rfl, moments, day, ⟨lowest, lower⟩, late⟩
      · exact .inr alone
  · rintro (bounds | ⟨rfl, moments, day, ⟨lowest, lower⟩, start, reads, last⟩ |
      ⟨rfl, bound, coerced, alone, reads, constant⟩)
    · exact fault?_range_of_bounds bounds
    · exact fault?_range_of_lastDay moments lower day reads last
    · exact fault?_range_of_constant alone reads constant

end Ranges

theorem rangeOf_of_pair {bounds : Value × Value} (pair : pair? value = some bounds) :
    rangeOf field value = range field bounds.1 bounds.2 ∧
      operands .between value = [bounds.1, bounds.2].filter isGiven := by
  refine ⟨?_, by simp [operands, pair]⟩
  unfold pair? at pair
  split at pair
  · obtain rfl : _ = bounds := by simpa using pair
    rfl
  · obtain rfl : _ = bounds := by simpa using pair
    rfl
  · simp at pair

theorem rangeOf_of_not_pair (noPair : pair? value = none) :
    rangeOf field value = refuse field.column.label .range := by
  unfold rangeOf
  split
  · simp [pair?] at noPair
  · simp [pair?] at noPair
  · rfl

theorem build_of_order {mode : MatchMode} (order : mode ∈ orderModes) :
    ∃ comparison, build field mode value = some <$> byOrder field comparison value := by
  simp only [orderModes, List.mem_cons, List.not_mem_nil, or_false] at order
  rcases order with rfl | rfl | rfl | rfl <;> exact ⟨_, rfl⟩

theorem build_of_equality {mode : MatchMode} (equality : mode ∈ equalityModes) :
    ∃ negated, build field mode value = some <$> equal field negated value := by
  simp only [equalityModes, List.mem_cons, List.not_mem_nil, or_false] at equality
  rcases equality with rfl | rfl <;> exact ⟨_, rfl⟩

theorem build_of_list {mode : MatchMode} (list : mode ∈ listModes) :
    ∃ negated, build field mode value = membership field negated value := by
  simp only [listModes, List.mem_cons, List.not_mem_nil, or_false] at list
  rcases list with rfl | rfl <;> exact ⟨_, rfl⟩

theorem build_of_day {mode : MatchMode} (day : mode ∈ dayModes) :
    ∃ relation, build field mode value = some <$> byDay field relation value := by
  simp only [dayModes, List.mem_cons, List.not_mem_nil, or_false] at day
  rcases day with rfl | rfl | rfl | rfl <;> exact ⟨_, rfl⟩

theorem build_of_substring {mode : MatchMode} (substringMode : mode ∈ substringModes) :
    ∃ negated anchor, build field mode value = some <$> substring field negated anchor value := by
  simp only [substringModes, List.mem_cons, List.not_mem_nil, or_false] at substringMode
  rcases substringMode with rfl | rfl | rfl | rfl <;> exact ⟨_, _, rfl⟩

theorem mem_itemModes {mode : MatchMode} (takesItems : mode ∈ listModes ++ [between]) :
    mode = isIn ∨ mode = notIn ∨ mode = between := by
  simpa [listModes] using takesItems

theorem rangeOf_tuple (field : Field) (items : List Value) :
    rangeOf field (.tuple items) = rangeOf field (.list items) := by
  rcases items with _ | ⟨low, _ | ⟨high, _ | _⟩⟩ <;> rfl

theorem mode_cases (mode : MatchMode) :
    mode ∈ substringModes ∨ mode ∈ dayModes ∨ mode ∈ listModes ∨ mode = .between ∨
      mode ∈ equalityModes ∨ mode ∈ orderModes := by
  cases mode <;> decide

theorem operands_eq_nil {mode : MatchMode} (free : mode ∈ substringModes ∨ mode ∈ dayModes) :
    operands mode value = [] := by
  simp only [substringModes, dayModes, List.mem_cons, List.not_mem_nil, or_false] at free
  rcases free with (rfl | rfl | rfl | rfl) | (rfl | rfl | rfl | rfl) <;> rfl

theorem fault?_build_of_operands {mode : MatchMode}
    (faulty : fault? ((operands mode value).mapM (coerce field.column)) = some fault) :
    fault? (build field mode value) = some fault := by
  rcases mode_cases mode with free | free | list | rfl | equality | order
  · simp [operands_eq_nil (.inl free), pure, Except.pure] at faulty
  · simp [operands_eq_nil (.inr free), pure, Except.pure] at faulty
  · obtain ⟨negated, same⟩ := build_of_list list
    rw [same, fault?_membership mode list, faulty]
  · cases pair : pair? value with
    | none => simp [operands, pair, pure, Except.pure] at faulty
    | some bounds =>
        obtain ⟨ranged, sameOperands⟩ := rangeOf_of_pair pair
        rw [build, ranged]
        exact fault?_range_eq_some_iff.mpr (.inl (sameOperands ▸ faulty))
  · obtain ⟨negated, same⟩ := build_of_equality equality
    rw [same, fault?_map]
    exact (fault?_equal_eq_some_iff mode equality).mpr (.inl faulty)
  · obtain ⟨comparison, same⟩ := build_of_order order
    rw [same, fault?_map]
    exact (fault?_byOrder_eq_some_iff mode order).mpr (.inl faulty)

/-- A filter ends the work exactly with the values that overrun. -/
theorem fault?_build_eq_some_iff {mode : MatchMode} :
    fault? (build field mode value) = some fault ↔ Overruns field mode value fault := by
  constructor
  · intro faulty
    rcases mode_cases mode with substringMode | day | list | rfl | equality | order
    · obtain ⟨negated, anchor, same⟩ := build_of_substring substringMode
      rw [same, fault?_map, fault?_substring_eq_some_iff] at faulty
      obtain ⟨read, noText, rfl⟩ := faulty
      exact .unwrittenText substringMode read noText
    · obtain ⟨relation, same⟩ := build_of_day day
      rw [same, fault?_map, fault?_byDay_eq_some_iff] at faulty
      rcases faulty with ⟨noText, rfl⟩ | ⟨rfl, moments, reads⟩
      · exact .unwrittenDay day noText
      · exact .lastDayOf day moments reads
    · obtain ⟨negated, same⟩ := build_of_list list
      rw [same, fault?_membership mode list] at faulty
      exact overruns_of_operands faulty
    · cases pair : pair? value with
      | none => simp [build, rangeOf_of_not_pair pair] at faulty
      | some bounds =>
          obtain ⟨ranged, sameOperands⟩ := rangeOf_of_pair pair
          rw [build, ranged, fault?_range_eq_some_iff] at faulty
          rcases faulty with operand | ⟨rfl, moments, day, ⟨lowest, lower⟩, start, reads, last⟩ |
            ⟨rfl, bound, coerced, alone, reads, constant⟩
          · exact overruns_of_operands (sameOperands ▸ operand)
          · exact .lastUpperDay pair moments lower day reads last
          · exact .unorderedBound (sameOperands.trans alone) reads constant
    · obtain ⟨negated, same⟩ := build_of_equality equality
      rw [same, fault?_map, fault?_equal_eq_some_iff mode equality] at faulty
      rcases faulty with operand | ⟨rfl, moments, day, start, reads, last⟩
      · exact overruns_of_operands operand
      · exact .lastDay equality moments day reads last
    · obtain ⟨comparison, same⟩ := build_of_order order
      rw [same, fault?_map, fault?_byOrder_eq_some_iff mode order] at faulty
      rcases faulty with operand | ⟨rfl, coerced, reads, constant⟩
      · exact overruns_of_operands operand
      · exact .unordered order reads constant
  · intro overruns
    cases overruns with
    | operand operand earlier unreadable =>
        exact fault?_build_of_operands
          (fault?_operands_eq_some_iff.mpr ⟨_, _, _, operand, earlier, unreadable⟩)
    | unwrittenText substringMode read noText =>
        obtain ⟨negated, anchor, same⟩ := build_of_substring substringMode
        rw [same, fault?_map]
        exact fault?_substring_eq_some_iff.mpr ⟨read, noText, rfl⟩
    | unwrittenDay day noText =>
        obtain ⟨relation, same⟩ := build_of_day day
        rw [same, fault?_map]
        exact fault?_byDay_eq_some_iff.mpr (.inl ⟨noText, rfl⟩)
    | unordered order reads constant =>
        obtain ⟨comparison, same⟩ := build_of_order order
        rw [same, fault?_map]
        exact (fault?_byOrder_eq_some_iff mode order).mpr (.inr ⟨rfl, _, reads, constant⟩)
    | unorderedBound alone reads constant =>
        cases pair : pair? value with
        | none => simp [operands, pair] at alone
        | some bounds =>
            obtain ⟨ranged, sameOperands⟩ := rangeOf_of_pair pair
            rw [build, ranged]
            exact fault?_range_eq_some_iff.mpr
              (.inr (.inr ⟨rfl, _, _, sameOperands.symm.trans alone, reads, constant⟩))
    | lastDay equality moments day reads last =>
        obtain ⟨negated, same⟩ := build_of_equality equality
        rw [same, fault?_map]
        exact (fault?_equal_eq_some_iff mode equality).mpr
          (.inr ⟨rfl, moments, day, _, reads, last⟩)
    | lastUpperDay pair moments lower day reads last =>
        obtain ⟨ranged, -⟩ := rangeOf_of_pair pair
        rw [build, ranged]
        exact fault?_range_eq_some_iff.mpr
          (.inr (.inl ⟨rfl, moments, day, ⟨_, lower⟩, _, reads, last⟩))
    | lastDayOf day moments reads =>
        obtain ⟨relation, same⟩ := build_of_day day
        rw [same, fault?_map]
        exact fault?_byDay_eq_some_iff.mpr (.inr ⟨rfl, moments, reads⟩)

end Filter

end Conditions

theorem Compose.fault?_compileClause_eq_some_iff {context : Context} {model : Model}
    {clause : FilterClause} {fault : Fault} :
    fault? (compileClause context model clause) = some fault ↔
      ∃ path mode, FieldPath.resolve context.registry context.options model (.str clause.field) =
          .ok path ∧
        MatchMode.read (.str clause.operator) (some path.name) = .ok mode ∧
        Filter.Overruns path.field mode clause.value fault := by
  have resolveSound : fault? (FieldPath.resolve context.registry context.options model
      (.str clause.field)) = none := by
    rw [FieldPath.resolve_str, fault?_ofChecked]
  have readSound (name : String) :
      fault? (MatchMode.read (.str clause.operator) (some name)) = none := by
    obtain ⟨text, same⟩ := MatchMode.read_str clause.operator (some name)
    rw [same]
    split <;> rfl
  simp only [compileClause, Filter.compileRaw, Filter.compile, fault?_bind_eq_some_iff,
    resolveSound, readSound, fault?_ok, reduceCtorEq, and_false, exists_false, or_false, false_or,
    Filter.fault?_build_eq_some_iff, ← exists_and_left]

end GridQuery
