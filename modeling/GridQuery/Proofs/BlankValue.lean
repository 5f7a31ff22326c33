import GridQuery.CustomFilter
import GridQuery.Proofs.Faults

/-!
What becomes of a blank value that reaches a column.  Most kinds of columns
refuse it, but texts, and the kinds whose values are taken as they are, compare
with it.
-/

namespace GridQuery

open Coercion

/-- The kinds of columns that take values without text. -/
def ColumnKind.takesEmpty : ColumnKind → Bool
  | .text | .time | .interval | .json | .bytes | .untyped => true
  | _ => false

section Values

variable {value : Value}

namespace Coercion

theorem givenText?_blank (blank : value.isBlank = true) : givenText? value = some "" := by
  have untruthy : value.isTruthy = false := by
    unfold Value.isBlank at blank
    split at blank <;> simp_all [Value.isTruthy]
  have stripped : Text.strip "" = "" := by decide +kernel
  rw [givenText?, Value.orElse, untruthy]
  exact congrArg some stripped

theorem toDate_blank (label : String) (blank : value.isBlank = true) :
    toDate label value = refuse label .date := by
  have unread : Date.ofIso? "" = none := by decide +kernel
  have noTime : hasTime "" = false := by decide +kernel
  unfold toDate
  split
  · simp [Value.isBlank] at blank
  · simp [Value.isBlank] at blank
  · simp only [givenText?_blank blank, Value.written, bind, Except.bind, noTime, unread,
      Bool.false_eq_true, if_false]

theorem toUuid_blank (label : String) (blank : value.isBlank = true) :
    toUuid label value = refuse label .uuid := by
  have unread : Uuid.ofText? "" = none := by decide +kernel
  unfold toUuid
  split
  · simp [Value.isBlank] at blank
  · simp only [givenText?_blank blank, Option.bind_some, unread]

theorem toMoment_blank (label : String) (blank : value.isBlank = true) :
    toMoment label value = refuse label .moment := by
  have unread : readMoment? "" = none := by decide +kernel
  unfold toMoment
  split
  · simp [Value.isBlank] at blank
  · simp only [givenText?_blank blank, Value.written, bind, Except.bind, unread]

end Coercion

section Empty

variable {column : Column} (empty : value = .str "" ∨ value = .tuple [])

include empty

theorem Coercion.readNumber_empty {Number : Type} (label : String)
    {read? : String → Option Number} (unread : read? "()" = none) :
    readNumber label read? value = refuse label .number := by
  have emptyText : (Value.tuple []).text = .ok "()" := by decide +kernel
  have stripped : Text.strip "()" = "()" := by decide +kernel
  have pointed : String.ofList (Text.replaceWord [','] ['.'] "()".toList) = "()" := by
    decide +kernel
  have notEmpty : "()".isEmpty = false := by decide +kernel
  rcases empty with rfl | rfl
  · rfl
  · simp only [readNumber, emptyText, bind, Except.bind, stripped, pointed, notEmpty, unread]
    rfl

theorem Coercion.toBool_empty (label : String) :
    Coercion.toBool label value = refuse label .boolean := by
  have noWord : truthWords.lookup (Text.fold (Text.strip "")) = none := by decide +kernel
  have noTupleWord : truthWords.lookup (Text.fold (Text.strip "()")) = none := by decide +kernel
  have emptyText : (Value.tuple []).textOrEmpty = .ok "()" := by decide +kernel
  rcases empty with rfl | rfl
  · simp only [Coercion.toBool, Value.textOrEmpty, Value.text_str, bind, Except.bind, noWord]
  · simp only [Coercion.toBool, emptyText, bind, Except.bind, noTupleWord]

theorem coerce_empty_of_takesEmpty (takes : column.kind.takesEmpty = true) :
    ∃ coerced, coerce column value = .ok coerced ∧ ∀ start, coerced ≠ .moment start := by
  unfold coerce
  cases kind : column.kind with
  | text | time | interval | json | bytes | untyped =>
      rcases empty with rfl | rfl <;> exact ⟨_, rfl, by simp⟩
  | _ => simp [kind, ColumnKind.takesEmpty] at takes

theorem coerce_empty_of_not_takesEmpty (refuses : column.kind.takesEmpty = false) :
    ∃ expected, coerce column value = refuse column.label expected := by
  have blank : value.isBlank = true := by
    rcases empty with rfl | rfl <;> rfl
  unfold coerce
  cases kind : column.kind with
  | integer =>
      have unread := readNumber_empty empty column.label
        (by decide +kernel : Integer.ofText? "()" = none)
      refine ⟨.number, ?_⟩
      rcases empty with rfl | rfl <;> exact congrArg (Value.int <$> ·) unread
  | real =>
      have unread := readNumber_empty empty column.label
        (by decide +kernel : Double.ofText? "()" = none)
      refine ⟨.number, ?_⟩
      rcases empty with rfl | rfl <;> exact congrArg (Value.float <$> ·) unread
  | numeric =>
      have unread := readNumber_empty empty column.label
        (by decide +kernel : Decimal.ofText? "()" = none)
      refine ⟨.number, ?_⟩
      rcases empty with rfl | rfl <;> exact congrArg (Value.decimal <$> ·) unread
  | boolean => exact ⟨.boolean, congrArg (Value.bool <$> ·) (toBool_empty empty column.label)⟩
  | uuid => exact ⟨.uuid, congrArg (Value.uuid <$> ·) (toUuid_blank column.label blank)⟩
  | date => exact ⟨.date, congrArg (Value.date <$> ·) (toDate_blank column.label blank)⟩
  | moment => exact ⟨.moment, congrArg (Value.moment <$> ·) (toMoment_blank column.label blank)⟩
  | _ => simp [kind, ColumnKind.takesEmpty] at refuses

end Empty

end Values

namespace Filter

/-- The modes of declared filters that compare a kind of column with a blank value. -/
def constrainsBlank (mode : MatchMode) (kind : ColumnKind) : Value → Bool
  | .str _ => mode = .contains || (mode = .equals || mode = .isIn) && kind.takesEmpty
  | .tuple _ => mode = .contains || mode = .equals && kind.takesEmpty
  | _ => false

theorem constrainsBlank_between (kind : ColumnKind) (value : Value) :
    constrainsBlank .between kind value = false := by
  cases value <;> rfl

variable {field : Field} {value : Value}

/-- A computation has no fault, and a condition exactly if a test says so. -/
def Asks (outcome : Outcome (Option Condition)) (constrains : Bool) : Prop :=
  fault? outcome = none ∧ (Compose.condition? outcome).isSome = constrains

theorem asks_reject (error : QueryError) : Asks (reject error) false :=
  ⟨rfl, rfl⟩

theorem asks_ok (condition : Option Condition) : Asks (.ok condition) condition.isSome := by
  cases condition <;> exact ⟨rfl, rfl⟩

theorem asks_compile {path : FieldPath} {mode : MatchMode} {constrains : Bool}
    (asks : Asks (build path.field mode value) constrains) :
    Asks (compile path mode value) constrains := by
  obtain ⟨noFault, constrained⟩ := asks
  refine ⟨(fault?_bind_ok _ _).trans noFault, ?_⟩
  rw [← constrained, compile]
  rcases build path.field mode value with failure | _ | condition <;> rfl

theorem asks_equal_empty (empty : value = .str "" ∨ value = .tuple []) :
    Asks (some <$> equal field false value) field.column.kind.takesEmpty := by
  have single : scalar field value = coerce field.column value := by
    rcases empty with rfl | rfl <;> rfl
  rw [equal, single]
  cases takes : field.column.kind.takesEmpty with
  | false =>
      obtain ⟨expected, refused⟩ := coerce_empty_of_not_takesEmpty empty takes
      rw [refused]
      exact asks_reject _
  | true =>
      obtain ⟨coerced, reads, noMoment⟩ := coerce_empty_of_takesEmpty empty takes
      rw [reads]
      cases coerced with
      | moment start => exact absurd rfl (noMoment start)
      | _ => exact asks_ok (some _)

theorem asks_membership_empty :
    Asks (membership field false (.str "")) field.column.kind.takesEmpty := by
  have single : ((itemsOf (.str "")).filter (!·.isNull)) = [.str ""] := rfl
  rw [membership, single, List.mapM_cons, List.mapM_nil]
  · cases takes : field.column.kind.takesEmpty with
    | false =>
        obtain ⟨expected, refused⟩ := coerce_empty_of_not_takesEmpty (.inl rfl) takes
        rw [refused]
        exact asks_reject _
    | true =>
        obtain ⟨coerced, reads, -⟩ := coerce_empty_of_takesEmpty (.inl rfl) takes
        rw [reads]
        exact asks_ok (some _)
  · simp

theorem asks_byDay_blank (relation : DayRelation) (blank : value.isBlank = true) :
    Asks (some <$> byDay field relation value) false := by
  unfold byDay
  rw [toDate_blank _ blank]
  exact asks_reject _

/-- A declared filter with a blank value never fails beyond its own item; whether it constrains the
column depends on its mode and on the kind of the column. -/
theorem asks_build_blank {mode : MatchMode} (declared : mode ∈ CustomFilter.kinds.map (·.2))
    (blank : value.isBlank = true) (given : value ≠ .null) :
    Asks (build field mode value) (constrainsBlank mode field.column.kind value) := by
  have shape : value = .list [] ∨ value = .str "" ∨ value = .tuple [] := by
    cases value with
    | null => contradiction
    | str s => simpa [Value.isBlank] using blank
    | list items | tuple items => simpa [Value.isBlank] using blank
    | _ => simp [Value.isBlank] at blank
  simp only [CustomFilter.kinds, List.map_cons, List.map_nil, List.mem_cons, List.not_mem_nil,
    or_false] at declared
  rcases declared with rfl | rfl | rfl | rfl | rfl
  · rcases shape with rfl | empty
    · exact asks_reject _
    · have asks : Asks (build field .equals value) field.column.kind.takesEmpty :=
        asks_equal_empty empty
      rcases empty with rfl | rfl <;> exact asks
  · rcases shape with rfl | rfl | rfl
    · exact asks_ok none
    · exact asks_membership_empty
    · exact asks_ok none
  · rcases shape with rfl | rfl | rfl <;> exact asks_reject _
  · rcases shape with rfl | rfl | rfl <;> exact asks_byDay_blank .on blank
  · rcases shape with rfl | rfl | rfl
    · exact asks_reject _
    · exact asks_ok (some _)
    · exact asks_ok (some _)

end Filter

end GridQuery
