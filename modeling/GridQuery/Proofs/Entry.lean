import GridQuery.Clause
import GridQuery.Proofs.HugeText

/-!
What the entries of decoded filters give.  An entry gives one clause, or none if
it asks for nothing, and neither depends on the other entries.  Only an operator
without a text ends the work, in an entry that asks for something.
-/

namespace GridQuery

/-- The values that ask for nothing. -/
def Value.Void (value : Value) : Prop :=
  value = .null ∨ value = .str "" ∨ value = .list [] ∨ value = .tuple []

theorem Value.void_iff {value : Value} : value.Void ↔ value.isBlank = true := by
  constructor
  · rintro (rfl | rfl | rfl | rfl) <;> rfl
  · intro blank
    cases value <;> simp_all [isBlank, Void]

/-- Results of items in the order of the items, of which each gives one or none. -/
inductive Picks {Item Result : Type} (gives : Item → Option Result → Prop) :
    List Item → List Result → Prop where
  | nil : Picks gives [] []
  | one {item : Item} {result : Result} {rest : List Item} {results : List Result} :
      gives item (some result) → Picks gives rest results →
      Picks gives (item :: rest) (result :: results)
  | none {item : Item} {rest : List Item} {results : List Result} :
      gives item none → Picks gives rest results → Picks gives (item :: rest) results

namespace Clause

/-- The clause that a field, an operator and a value give, or that they give none. -/
inductive Gives : Value → Value → Value → Option FilterClause → Prop where
  | operator {name text : String} {operator value : Value} :
      Text.strip name ≠ "" → Text.strip name ≠ "global" → ¬ value.Void →
      operator.isTruthy = true → operator.text? = some text →
      Gives (.str name) operator value (some ⟨Text.strip name, text, value⟩)
  | equality {name : String} {operator value : Value} :
      Text.strip name ≠ "" → Text.strip name ≠ "global" → ¬ value.Void →
      operator.isTruthy = false →
      Gives (.str name) operator value (some ⟨Text.strip name, "equals", value⟩)
  | noText {field operator value : Value} :
      (∀ name, field ≠ .str name) → Gives field operator value none
  | noName {name : String} {operator value : Value} :
      Text.strip name = "" → Gives (.str name) operator value none
  | searchSlot {name : String} {operator value : Value} :
      Text.strip name = "global" → Gives (.str name) operator value none
  | void {field operator value : Value} : value.Void → Gives field operator value none

/-- What an entry of an object gives; one that is no object itself gives no clause. -/
inductive MemberGives : String × Value → Option FilterClause → Prop where
  | entry {name : String} {data : Members} {result : Option FilterClause} :
      Gives (.str name) (data.value "matchMode") (data.value "value") result →
      MemberGives (name, .object data) result
  | noObject {name : String} {entry : Value} :
      (∀ data, entry ≠ .object data) → MemberGives (name, entry) none

inductive RecordGives : Value → Option FilterClause → Prop where
  | entry {data : Members} {result : Option FilterClause} :
      Gives (data.value "field") ((data.value "operator").orElse (data.value "matchMode"))
        (data.value "value") result →
      RecordGives (.object data) result
  | noObject {entry : Value} : (∀ data, entry ≠ .object data) → RecordGives entry none

/-- The clauses of the entries of decoded filters. -/
inductive Lists : Value → List FilterClause → Prop where
  | null : Lists .null []
  | object {members : Members} {clauses : List FilterClause} :
      Picks MemberGives members clauses → Lists (.object members) clauses
  | list {records : List Value} {clauses : List FilterClause} :
      Picks RecordGives records clauses → Lists (.list records) clauses

/-- The decoded filters of a known shape. -/
inductive HasShape : Value → Prop where
  | null : HasShape .null
  | object {members : Members} : HasShape (.object members)
  | list {records : List Value} : HasShape (.list records)

/-- A field and a value that ask for something by an operator with a huge integer in it. -/
inductive Overlong : Value → Value → Value → Prop where
  | operator {name : String} {operator value : Value} :
      Text.strip name ≠ "" → Text.strip name ≠ "global" → ¬ value.Void → operator.HoldsHuge →
      Overlong (.str name) operator value

/-- Decoded filters with an entry whose operator has no text. -/
inductive HasOverlong : Value → Prop where
  | object {members : Members} {name : String} {data : Members} :
      (name, .object data) ∈ members →
      Overlong (.str name) (data.value "matchMode") (data.value "value") →
      HasOverlong (.object members)
  | list {records : List Value} {data : Members} :
      .object data ∈ records →
      Overlong (data.value "field") ((data.value "operator").orElse (data.value "matchMode"))
        (data.value "value") →
      HasOverlong (.list records)

section Items

variable {Item : Type} {ofItem? : Item → Outcome (Option FilterClause)} {items : List Item}

theorem ofEntries_nil : ofEntries ofItem? [] = .ok [] := rfl

theorem ofEntries_cons (item : Item) :
    ofEntries ofItem? (item :: items) =
      ofItem? item >>= fun clause =>
        ofEntries ofItem? items >>= fun later => .ok (clause.toList ++ later) := by
  rw [ofEntries, ofEntries, List.mapM_cons]
  rcases ofItem? item with failure | _ | clause
  · rfl
  · cases items.mapM ofItem? <;> rfl
  · cases items.mapM ofItem? <;> rfl

theorem picks_iff_ofEntries {gives : Item → Option FilterClause → Prop}
    (given : ∀ item result, gives item result ↔ ofItem? item = .ok result)
    {clauses : List FilterClause} :
    Picks gives items clauses ↔ ofEntries ofItem? items = .ok clauses := by
  constructor
  · intro picked
    induction picked with
    | nil => rfl
    | one here _ inductionHypothesis =>
        rw [ofEntries_cons, (given _ _).mp here, inductionHypothesis]
        rfl
    | none here _ inductionHypothesis =>
        rw [ofEntries_cons, (given _ _).mp here, inductionHypothesis]
        rfl
  · intro read
    induction items generalizing clauses with
    | nil =>
        obtain rfl : [] = clauses := by simpa [ofEntries_nil] using read
        exact .nil
    | cons item rest inductionHypothesis =>
        simp only [ofEntries_cons, bind_eq_ok_iff, Except.ok.injEq] at read
        obtain ⟨clause, here, later, there, rfl⟩ := read
        cases clause with
        | none => exact .none ((given _ _).mpr here) (inductionHypothesis there)
        | some clause => exact .one ((given _ _).mpr here) (inductionHypothesis there)

theorem ofEntries_eq_error_iff {bad : Item → Prop} {only : Failure}
    (fails : ∀ item failure, ofItem? item = .error failure ↔ bad item ∧ failure = only)
    {failure : Failure} :
    ofEntries ofItem? items = .error failure ↔ (∃ item ∈ items, bad item) ∧ failure = only := by
  rw [← mapM_eq_error_iff fails, ofEntries, bind_eq_error_iff]
  simp

end Items

section Entries

variable {field operator value : Value} {result : Option FilterClause} {failure : Failure}

theorem ofTriple?_of_given {name : String} (named : Text.strip name ≠ "")
    (notSlot : Text.strip name ≠ "global") (given : ¬ value.Void) :
    ofTriple? (.str name) operator value =
      (fun text => some ⟨Text.strip name, text, value⟩) <$>
        (operator.orElse (.str "equals")).text := by
  have notBlank : ¬ value.isBlank = true := fun blank => given (Value.void_iff.mpr blank)
  have notDropped : ¬ ((Text.strip name).isEmpty = true ∨ Text.strip name = searchSlot ∨
      value.isBlank = true) := by
    simp only [String.isEmpty_iff, not_or]
    exact ⟨named, notSlot, notBlank⟩
  rw [ofTriple?, if_neg notDropped, MatchMode.name]
  rfl

theorem ofTriple?_cases (field operator value : Value) :
    (Gives field operator value none ∧ ofTriple? field operator value = .ok none) ∨
      ∃ name, field = .str name ∧ Text.strip name ≠ "" ∧ Text.strip name ≠ "global" ∧
        ¬ value.Void := by
  cases field with
  | str name =>
      by_cases blank : Text.strip name = ""
      · exact .inl ⟨.noName blank, by simp [ofTriple?, blank]⟩
      by_cases slot : Text.strip name = "global"
      · exact .inl ⟨.searchSlot slot, by simp [ofTriple?, slot, searchSlot]⟩
      by_cases nothing : value.Void
      · exact .inl ⟨.void nothing, by simp [ofTriple?, Value.void_iff.mp nothing]⟩
      exact .inr ⟨name, rfl, blank, slot, nothing⟩
  | _ => exact .inl ⟨.noText (by simp), rfl⟩

theorem gives_iff :
    Gives field operator value result ↔ ofTriple? field operator value = .ok result := by
  constructor
  · intro gives
    cases gives with
    | operator named notSlot given truthy text =>
        rw [ofTriple?_of_given named notSlot given, Value.orElse, if_pos truthy,
          Value.text_eq_ok_iff.mpr text]
        rfl
    | equality named notSlot given untruthy =>
        rw [ofTriple?_of_given named notSlot given, Value.orElse, untruthy]
        rfl
    | noText other => cases field <;> simp_all [ofTriple?]
    | noName blank => simp [ofTriple?, blank]
    | searchSlot slot => simp [ofTriple?, slot, searchSlot]
    | void nothing => cases field <;> simp [ofTriple?, Value.void_iff.mp nothing]
  · intro read
    rcases ofTriple?_cases field operator value with ⟨gives, nothing⟩ |
      ⟨name, rfl, named, notSlot, given⟩
    · obtain rfl : none = result := by simpa [nothing] using read
      exact gives
    · rw [ofTriple?_of_given named notSlot given, map_eq_ok_iff] at read
      obtain ⟨text, read, rfl⟩ := read
      cases truthy : operator.isTruthy with
      | true =>
          rw [Value.orElse, if_pos truthy, Value.text_eq_ok_iff] at read
          exact .operator named notSlot given truthy read
      | false =>
          rw [Value.orElse, truthy] at read
          obtain rfl : "equals" = text := by simpa using read
          exact .equality named notSlot given truthy

theorem ofTriple?_eq_error_iff :
    ofTriple? field operator value = .error failure ↔
      Overlong field operator value ∧ failure = .fault .hugeText := by
  constructor
  · intro failed
    rcases ofTriple?_cases field operator value with ⟨-, nothing⟩ |
      ⟨name, rfl, named, notSlot, given⟩
    · simp [nothing] at failed
    · rw [ofTriple?_of_given named notSlot given, map_eq_error_iff, Value.text_eq_error_iff,
        Value.text?_eq_none_iff] at failed
      obtain ⟨huge, rfl⟩ := failed
      rw [Value.orElse] at huge
      split at huge
      · exact ⟨.operator named notSlot given huge, rfl⟩
      · cases huge
  · rintro ⟨⟨named, notSlot, given, huge⟩, rfl⟩
    rw [ofTriple?_of_given named notSlot given, map_eq_error_iff, Value.text_eq_error_iff,
      Value.text?_eq_none_iff, Value.orElse, if_pos huge.isTruthy]
    exact ⟨huge, rfl⟩

theorem ofMember?_object (name : String) (data : Members) :
    ofMember? (name, .object data) =
      ofTriple? (.str name) (data.value "matchMode") (data.value "value") := rfl

theorem ofRecord?_object (data : Members) :
    ofRecord? (.object data) =
      ofTriple? (data.value "field") ((data.value "operator").orElse (data.value "matchMode"))
        (data.value "value") := rfl

theorem memberGives_iff {member : String × Value} :
    MemberGives member result ↔ ofMember? member = .ok result := by
  constructor
  · intro gives
    cases gives with
    | entry gives => rw [ofMember?_object, gives_iff.mp gives]
    | noObject other => unfold ofMember?; split <;> simp_all
  · intro read
    obtain ⟨name, entry⟩ := member
    cases entry with
    | object data => exact .entry (gives_iff.mpr read)
    | _ =>
        obtain rfl : none = result := Except.ok.inj read
        exact .noObject (by simp)

theorem recordGives_iff {record : Value} :
    RecordGives record result ↔ ofRecord? record = .ok result := by
  constructor
  · intro gives
    cases gives with
    | entry gives => rw [ofRecord?_object, gives_iff.mp gives]
    | noObject other => unfold ofRecord?; split <;> simp_all
  · intro read
    cases record with
    | object data => exact .entry (gives_iff.mpr read)
    | _ =>
        obtain rfl : none = result := Except.ok.inj read
        exact .noObject (by simp)

theorem picks_memberGives_iff {members : Members} {clauses : List FilterClause} :
    Picks MemberGives members clauses ↔ ofEntries ofMember? members = .ok clauses := by
  apply picks_iff_ofEntries
  intro member result
  exact memberGives_iff

theorem picks_recordGives_iff {records : List Value} {clauses : List FilterClause} :
    Picks RecordGives records clauses ↔ ofEntries ofRecord? records = .ok clauses := by
  apply picks_iff_ofEntries
  intro record result
  exact recordGives_iff

theorem ofMember?_eq_error_iff {member : String × Value} :
    ofMember? member = .error failure ↔
      (∃ data : Members, member.2 = .object data ∧
        Overlong (.str member.1) (data.value "matchMode") (data.value "value")) ∧
      failure = .fault .hugeText := by
  obtain ⟨name, entry⟩ := member
  cases entry with
  | object data =>
      rw [ofMember?_object, ofTriple?_eq_error_iff]
      exact and_congr_left fun _ =>
        ⟨fun overlong => ⟨data, rfl, overlong⟩, fun ⟨_, same, overlong⟩ => by
          obtain rfl := Value.object.inj same
          exact overlong⟩
  | _ => simp [ofMember?]

theorem ofRecord?_eq_error_iff {record : Value} :
    ofRecord? record = .error failure ↔
      (∃ data : Members, record = .object data ∧
        Overlong (data.value "field") ((data.value "operator").orElse (data.value "matchMode"))
          (data.value "value")) ∧
      failure = .fault .hugeText := by
  cases record with
  | object data =>
      rw [ofRecord?_object, ofTriple?_eq_error_iff]
      exact and_congr_left fun _ =>
        ⟨fun overlong => ⟨data, rfl, overlong⟩, fun ⟨_, same, overlong⟩ => by
          obtain rfl := Value.object.inj same
          exact overlong⟩
  | _ => simp [ofRecord?]

end Entries

section Decoded

variable {decoded : Value}

theorem ofDecoded_eq_ok_iff {clauses : List FilterClause} :
    ofDecoded decoded = .ok clauses ↔ Lists decoded clauses := by
  constructor
  · intro read
    cases decoded with
    | null =>
        obtain rfl : [] = clauses := by simpa [ofDecoded] using read
        exact .null
    | object members => exact .object (picks_memberGives_iff.mpr read)
    | list records => exact .list (picks_recordGives_iff.mpr read)
    | _ => simp [ofDecoded, reject] at read
  · intro lists
    cases lists with
    | null => rfl
    | object picked => exact picks_memberGives_iff.mp picked
    | list picked => exact picks_recordGives_iff.mp picked

theorem hasOverlong_object_iff {members : Members} :
    HasOverlong (.object members) ↔ ∃ member ∈ members, ∃ data : Members, member.2 = .object data ∧
      Overlong (.str member.1) (data.value "matchMode") (data.value "value") := by
  constructor
  · intro overlong
    cases overlong with
    | object member asked => exact ⟨_, member, _, rfl, asked⟩
  · rintro ⟨⟨name, entry⟩, member, data, rfl, overlong⟩
    exact .object member overlong

theorem hasOverlong_list_iff {records : List Value} :
    HasOverlong (.list records) ↔ ∃ record ∈ records, ∃ data : Members, record = .object data ∧
      Overlong (data.value "field") ((data.value "operator").orElse (data.value "matchMode"))
        (data.value "value") := by
  constructor
  · intro overlong
    cases overlong with
    | list member asked => exact ⟨_, member, _, rfl, asked⟩
  · rintro ⟨_, member, data, rfl, overlong⟩
    exact .list member overlong

/-- Decoded filters fail by their shape, or by an operator without a text. -/
theorem ofDecoded_eq_error_iff {failure : Failure} :
    ofDecoded decoded = .error failure ↔
      (¬ HasShape decoded ∧ failure = .rejected .notRecords) ∨
        HasOverlong decoded ∧ failure = .fault .hugeText := by
  cases decoded with
  | null =>
      have noEntry : ¬ HasOverlong .null := by rintro ⟨⟩
      simp [ofDecoded, HasShape.null, noEntry]
  | object members =>
      have shape : HasShape (.object members) := .object
      simp only [ofDecoded, ofEntries_eq_error_iff fun _ _ => ofMember?_eq_error_iff,
        hasOverlong_object_iff, shape, not_true_eq_false, false_and, false_or]
  | list records =>
      have shape : HasShape (.list records) := .list
      simp only [ofDecoded, ofEntries_eq_error_iff fun _ _ => ofRecord?_eq_error_iff,
        hasOverlong_list_iff, shape, not_true_eq_false, false_and, false_or]
  | _ =>
      simp only [ofDecoded, reject, Except.error.injEq]
      constructor
      · rintro rfl
        exact .inl ⟨by rintro ⟨⟩, rfl⟩
      · rintro (⟨-, rfl⟩ | ⟨overlong, -⟩)
        · rfl
        · cases overlong

theorem Overlong.holdsHuge {field operator value : Value}
    (overlong : Overlong field operator value) : operator.HoldsHuge := by
  cases overlong with
  | operator _ _ _ huge => exact huge

theorem HasOverlong.holdsHuge (overlong : HasOverlong decoded) : decoded.HoldsHuge := by
  cases overlong with
  | object member overlong => exact .object member overlong.holdsHuge.of_member
  | list member overlong =>
      have huge := overlong.holdsHuge
      rw [Value.orElse] at huge
      split at huge <;> exact .list member huge.of_member

end Decoded

end Clause

end GridQuery
