import GridQuery.Proofs.Entry
import Mathlib.Tactic.ByContra

/-!
The two shapes of filters.  An object of fields and a list of records are read
alike, decoded or not, and neither loses an entry that asks for something: the
clauses are those of the entries one by one, in their order.
-/

namespace GridQuery

namespace Text

theorem ne_of_isBlank {c other : Char} (blank : isBlank c = true) (given : isBlank other = false) :
    c ≠ other := by
  rintro rfl
  simp [blank] at given

theorem isDigit_of_isBlank {c : Char} (blank : isBlank c = true) : c.isDigit = false := by
  cases digit : c.isDigit with
  | false => rfl
  | true => simp [isBlank_of_isDigit digit] at blank

theorem isByteBlank_iff {b : UInt8} :
    isByteBlank b = true ↔ b = 9 ∨ b = 10 ∨ b = 11 ∨ b = 12 ∨ b = 13 ∨ b = 32 := by
  simp only [isByteBlank, Bool.or_eq_true, Bool.and_eq_true, decide_eq_true_eq, beq_iff_eq,
    UInt8.le_iff_toNat_le, ← UInt8.toNat_inj, UInt8.reduceToNat]
  omega

end Text

namespace Utf

theorem step_of_isByteBlank {lead : UInt8} (rest : List UInt8)
    (blank : Text.isByteBlank lead = true) :
    ∃ c, step .eight lead rest = .char c 1 ∧ Text.isBlank c = true := by
  have noSurrogate : isSurrogate (lead :: rest) = false := by
    unfold isSurrogate
    split
    next same =>
      obtain ⟨rfl, -⟩ := List.cons.inj same
      rcases Text.isByteBlank_iff.mp blank with rfl | rfl | rfl | rfl | rfl | rfl <;> rfl
    · rfl
  refine ⟨charOf lead.toNat, ?_, ?_⟩
  · rw [step, noSurrogate]
    rcases Text.isByteBlank_iff.mp blank with rfl | rfl | rfl | rfl | rfl | rfl <;> rfl
  · rcases Text.isByteBlank_iff.mp blank with rfl | rfl | rfl | rfl | rfl | rfl <;> decide

theorem decodeFrom_of_blank {bytes : List UInt8} (position : Nat)
    (blank : bytes.all Text.isByteBlank = true) :
    ∃ cs, decodeFrom .eight position bytes = .ok cs ∧ cs.all Text.isBlank = true := by
  induction bytes generalizing position with
  | nil => exact ⟨[], by rw [decodeFrom], rfl⟩
  | cons lead rest inductionHypothesis =>
      simp only [List.all_cons, Bool.and_eq_true] at blank
      obtain ⟨c, isChar, isBlank⟩ := step_of_isByteBlank rest blank.1
      obtain ⟨later, decoded, laterBlank⟩ := inductionHypothesis (position + 1) blank.2
      refine ⟨c :: later, ?_, by simp [isBlank, laterBlank]⟩
      rw [decodeFrom, isChar]
      simp [decoded, Functor.map, Except.map]

theorem detect_of_blank {bytes : List UInt8} (blank : bytes.all Text.isByteBlank = true) :
    detect bytes = (.eight, bytes) := by
  cases bytes with
  | nil => rfl
  | cons first later =>
      simp only [List.all_cons, Bool.and_eq_true, Text.isByteBlank_iff] at blank
      cases later with
      | nil => rcases blank.1 with rfl | rfl | rfl | rfl | rfl | rfl <;> rfl
      | cons second rest =>
          -- Two bytes decide it: the later ones matter only beside a zero or a mark.
          simp only [List.all_cons, Bool.and_eq_true, Text.isByteBlank_iff] at blank
          rcases blank.1 with rfl | rfl | rfl | rfl | rfl | rfl <;>
            rcases blank.2.1 with rfl | rfl | rfl | rfl | rfl | rfl <;> rfl

theorem decode_of_blank {bytes : List UInt8} (blank : bytes.all Text.isByteBlank = true) :
    ∃ cs, decode bytes = .ok cs ∧ cs.all Text.isBlank = true := by
  rw [decode, detect_of_blank blank]
  exact decodeFrom_of_blank 0 blank

end Utf

namespace Json

theorem readAtom_of_blank {cursor : Cursor} (blank : cursor.rest.all Text.isBlank = true) :
    readAtom cursor = cursor.fail .expectedValue := by
  obtain ⟨position, rest⟩ := cursor
  cases rest with
  | nil => rfl
  | cons c later =>
      have first : Text.isBlank c = true := by
        simp only [List.all_cons, Bool.and_eq_true] at blank
        exact blank.1
      have other (d : Char) (given : Text.isBlank d = false) : c ≠ d :=
        Text.ne_of_isBlank first given
      have noWhole : wholeAt (c :: later) = [] := by
        unfold wholeAt
        split
        next same => exact absurd (List.cons.inj same).1 (other '0' (by decide))
        · simp [Text.isDigit_of_isBlank first]
      have noNumber : readNumber? ⟨position, c :: later⟩ = none := by
        simp [readNumber?, other '-' (by decide), noWhole]
      have noWord : readWord? ⟨position, c :: later⟩ = none := by
        have heads : ∀ word ∈ words,
            ∃ d, word.1.toList.head? = some d ∧ Text.isBlank d = false := by
          simp [words, Text.isBlank]
        simp only [readWord?, Option.map_eq_none_iff, List.find?_eq_none]
        intro word member front
        obtain ⟨d, head, given⟩ := heads word member
        obtain ⟨tail, whole⟩ := List.isPrefixOf_iff_prefix.mp front
        have same : d = c := by simpa [List.head?_append, head] using congrArg List.head? whole
        exact other d given same.symm
      rw [readAtom, noNumber, noWord]

theorem ofChars_ne_ok_of_blank {cs : List Char} {value : Value}
    (blank : cs.all Text.isBlank = true) : ofChars cs ≠ .ok value := by
  have stopped (fuel : Nat) {cursor : Cursor} (rest : cursor.rest.all Text.isBlank = true) :
      readValue (fuel + 1) cursor = cursor.fail .expectedValue := by
    rw [readValue]
    split
    next same => simp [same, Text.isBlank] at rest
    next same => simp [same, Text.isBlank] at rest
    next same => simp [same, Text.isBlank] at rest
    · exact readAtom_of_blank rest
  have skipped : (Cursor.mk 0 cs).skip.rest.all Text.isBlank = true := by
    simp only [List.all_eq_true] at blank ⊢
    exact fun c member => blank c (List.mem_of_mem_drop member)
  obtain ⟨stop, notRead⟩ : ∃ stop, readAll cs = .error stop := by
    unfold readAll
    split
    · exact ⟨_, rfl⟩
    · exact ⟨_, by rw [Nat.mul_succ, stopped _ skipped]; rfl⟩
  simp [ofChars, notRead, mapError_error]

theorem ofBytes_ne_ok_of_blank {content : List UInt8} {value : Value}
    (blank : content.all Text.isByteBlank = true) : ofBytes content ≠ .ok value := by
  obtain ⟨cs, decoded, blankChars⟩ := Utf.decode_of_blank blank
  rw [ofBytes, decoded]
  exact ofChars_ne_ok_of_blank blankChars

end Json

namespace Clause

/-- What a payload stands for: text for the value that it writes, or null if it is blank, and
every other value for itself. -/
inductive Reads : Value → Value → Prop where
  | plain {raw : Value} : (∀ s, raw ≠ .str s) → (∀ content, raw ≠ .bytes content) → Reads raw raw
  | blankText {s : String} : Text.isBlankText s = true → Reads (.str s) .null
  | blankBytes {content : List UInt8} :
      content.all Text.isByteBlank = true → Reads (.bytes content) .null
  | text {s : String} {value : Value} : Json.ofText s = .ok value → Reads (.str s) value
  | bytes {content : List UInt8} {value : Value} :
      Json.ofBytes content = .ok value → Reads (.bytes content) value

/-- A text that is neither blank nor JSON, and why it is not JSON. -/
inductive Garbled : Value → Json.Failure → Prop where
  | text {s : String} {failure : Json.Failure} :
      Text.isBlankText s = false → Json.ofText s = .error failure → Garbled (.str s) failure
  | bytes {content : List UInt8} {failure : Json.Failure} :
      content.all Text.isByteBlank = false → Json.ofBytes content = .error failure →
      Garbled (.bytes content) failure

section Decode

variable {parameter : String} {raw value : Value}

theorem mapError_orNull_eq_ok_iff {blank : Bool} {read : Except Json.Failure Value} :
    (if blank then .ok .null else read).mapError (QueryError.notJson parameter) = .ok value ↔
      blank = true ∧ .null = value ∨ blank = false ∧ read = .ok value := by
  cases blank with
  | true => simp [mapError_ok]
  | false => cases read <;> simp [mapError_ok, mapError_error]

theorem mapError_orNull_eq_error_iff {blank : Bool} {read : Except Json.Failure Value}
    {error : QueryError} :
    (if blank then .ok .null else read).mapError (QueryError.notJson parameter) = .error error ↔
      blank = false ∧ ∃ failure, read = .error failure ∧ error = .notJson parameter failure := by
  cases blank with
  | true => simp [mapError_ok]
  | false => simp [mapError_eq_error_iff, @eq_comm _ error]

theorem decode_eq_ok_iff : decode parameter raw = .ok value ↔ Reads raw value := by
  constructor
  · intro decoded
    cases raw with
    | str s =>
        rcases mapError_orNull_eq_ok_iff.mp decoded with ⟨blank, rfl⟩ | ⟨-, read⟩
        · exact .blankText blank
        · exact .text read
    | bytes content =>
        rcases mapError_orNull_eq_ok_iff.mp decoded with ⟨blank, rfl⟩ | ⟨-, read⟩
        · exact .blankBytes blank
        · exact .bytes read
    | _ =>
        obtain rfl : _ = value := by simpa [decode, mapError_ok] using decoded
        exact .plain (by simp) (by simp)
  · intro reads
    cases reads with
    | plain noText noBytes => cases raw <;> simp_all [decode, mapError_ok]
    | blankText blank => exact mapError_orNull_eq_ok_iff.mpr (.inl ⟨blank, rfl⟩)
    | blankBytes blank => exact mapError_orNull_eq_ok_iff.mpr (.inl ⟨blank, rfl⟩)
    | text read =>
        refine mapError_orNull_eq_ok_iff.mpr (.inr ⟨?_, read⟩)
        by_contra blank
        exact Json.ofChars_ne_ok_of_blank (by simpa [Text.isBlankText] using blank) read
    | bytes read =>
        refine mapError_orNull_eq_ok_iff.mpr (.inr ⟨?_, read⟩)
        by_contra blank
        exact Json.ofBytes_ne_ok_of_blank (by simpa using blank) read

theorem decode_eq_error_iff {error : QueryError} :
    decode parameter raw = .error error ↔
      ∃ failure, Garbled raw failure ∧ error = .notJson parameter failure := by
  constructor
  · intro refused
    cases raw with
    | str s =>
        obtain ⟨given, failure, failed, rfl⟩ := mapError_orNull_eq_error_iff.mp refused
        exact ⟨failure, .text given failed, rfl⟩
    | bytes content =>
        obtain ⟨given, failure, failed, rfl⟩ := mapError_orNull_eq_error_iff.mp refused
        exact ⟨failure, .bytes given failed, rfl⟩
    | _ => simp [decode, mapError_ok] at refused
  · rintro ⟨failure, garbled, rfl⟩
    cases garbled with
    | text given failed => exact mapError_orNull_eq_error_iff.mpr ⟨given, failure, failed, rfl⟩
    | bytes given failed => exact mapError_orNull_eq_error_iff.mpr ⟨given, failure, failed, rfl⟩

end Decode

/-- The record that says of a field, with its operator under a key, what a member of an object
says of it; what is no object stays as it is. -/
def recordOf (key : String) (member : String × Value) : Value :=
  match member.2 with
  | .object data =>
      .object [("field", .str member.1), (key, Members.value data "matchMode"),
        ("value", Members.value data "value")]
  | other => other

/-- Filters as an object, and as lists of records with either key for the operator. -/
def wireForms (members : Members) : List Value :=
  [.object members, .list (members.map (recordOf "matchMode")),
    .list (members.map (recordOf "operator"))]

theorem ofTriple?_orElse_null (field operator value : Value) :
    ofTriple? field (operator.orElse .null) value = ofTriple? field operator value := by
  have same : (operator.orElse .null).orElse (.str MatchMode.equals.name) =
      operator.orElse (.str MatchMode.equals.name) := by
    cases truthy : operator.isTruthy with
    | true => simp only [Value.orElse, truthy, if_true]
    | false =>
        simp only [Value.orElse, truthy, Bool.false_eq_true, if_false]
        rfl
  simp only [ofTriple?, same]

theorem ofRecord?_recordOf_matchMode (member : String × Value) :
    ofRecord? (recordOf "matchMode" member) = ofMember? member := by
  obtain ⟨name, entry⟩ := member
  cases entry with
  | object data =>
      simp [recordOf, ofRecord?, ofMember?, Members.value, Members.value?, List.lookup_cons,
        Value.orElse, Value.isTruthy]
  | _ => rfl

theorem ofRecord?_recordOf_operator (member : String × Value) :
    ofRecord? (recordOf "operator" member) = ofMember? member := by
  obtain ⟨name, entry⟩ := member
  cases entry with
  | object data =>
      simp [recordOf, ofRecord?, ofMember?, Members.value, Members.value?, List.lookup_cons,
        ofTriple?_orElse_null]
  | _ => rfl

theorem ofEntries_map {Item Other : Type} {ofItem? : Item → Outcome (Option FilterClause)}
    {ofOther? : Other → Outcome (Option FilterClause)} {form : Item → Other}
    (same : ∀ item, ofOther? (form item) = ofItem? item) (items : List Item) :
    ofEntries ofOther? (items.map form) = ofEntries ofItem? items := by
  induction items with
  | nil => rfl
  | cons item rest inductionHypothesis =>
      rw [List.map_cons, ofEntries_cons, ofEntries_cons, same, inductionHypothesis]

theorem ofDecoded_wireForms {members : Members} {decoded : Value}
    (form : decoded ∈ wireForms members) : ofDecoded decoded = ofDecoded (.object members) := by
  simp only [wireForms, List.mem_cons, List.not_mem_nil, or_false] at form
  rcases form with rfl | rfl | rfl
  · rfl
  · exact ofEntries_map ofRecord?_recordOf_matchMode members
  · exact ofEntries_map ofRecord?_recordOf_operator members

/-- Text never writes an operator with a huge integer in it. -/
theorem plain_of_hasOverlong {raw decoded : Value} (reads : Reads raw decoded)
    (overlong : HasOverlong decoded) : raw = decoded := by
  cases reads with
  | plain => rfl
  | blankText | blankBytes => cases overlong
  | text read => exact absurd overlong.holdsHuge (Json.not_holdsHuge_of_ofText read)
  | bytes read => exact absurd overlong.holdsHuge (Json.not_holdsHuge_of_ofBytes read)

theorem reads_of_hasOverlong {raw : Value} (overlong : HasOverlong raw) : Reads raw raw := by
  cases overlong <;> exact .plain (by simp) (by simp)

theorem filters_eq_ok_iff {raw : Value} {clauses : List FilterClause} :
    filters raw = .ok clauses ↔ ∃ decoded, Reads raw decoded ∧ Lists decoded clauses := by
  simp only [filters, bind_eq_ok_iff, ofChecked_eq_ok_iff, decode_eq_ok_iff, ofDecoded_eq_ok_iff]

/-- Filters are not read if they are not JSON, if their shape is not known, or if an operator in
them has no text; the last needs an integer that JSON text does not write. -/
theorem filters_eq_error_iff {raw : Value} {failure : Failure} :
    filters raw = .error failure ↔
      ((∃ problem, Garbled raw problem ∧ failure = .rejected (.notJson "filters" problem)) ∨
        ∃ decoded, Reads raw decoded ∧ ¬ HasShape decoded ∧ failure = .rejected .notRecords) ∨
      HasOverlong raw ∧ failure = .fault .hugeText := by
  simp only [filters, bind_eq_error_iff, ofChecked_eq_error_iff, ofChecked_eq_ok_iff,
    decode_eq_ok_iff, decode_eq_error_iff, ofDecoded_eq_error_iff]
  constructor
  · rintro (⟨_, ⟨problem, garbled, rfl⟩, rfl⟩ |
      ⟨decoded, reads, ⟨shapeless, rfl⟩ | ⟨overlong, rfl⟩⟩)
    · exact .inl (.inl ⟨problem, garbled, rfl⟩)
    · exact .inl (.inr ⟨decoded, reads, shapeless, rfl⟩)
    · exact .inr ⟨plain_of_hasOverlong reads overlong ▸ overlong, rfl⟩
  · rintro ((⟨problem, garbled, rfl⟩ | ⟨decoded, reads, shapeless, rfl⟩) | ⟨overlong, rfl⟩)
    · exact .inl ⟨_, ⟨problem, garbled, rfl⟩, rfl⟩
    · exact .inr ⟨decoded, reads, .inl ⟨shapeless, rfl⟩⟩
    · exact .inr ⟨raw, reads_of_hasOverlong overlong, .inr ⟨overlong, rfl⟩⟩

theorem filters_eq_reject_iff {raw : Value} {error : QueryError} :
    filters raw = reject error ↔
      (∃ failure, Garbled raw failure ∧ error = .notJson "filters" failure) ∨
        ∃ decoded, Reads raw decoded ∧ ¬ HasShape decoded ∧ error = .notRecords := by
  simp [reject, filters_eq_error_iff]

theorem filters_eq_giveUp_iff {raw : Value} {fault : Fault} :
    filters raw = giveUp fault ↔ HasOverlong raw ∧ fault = .hugeText := by
  simp [giveUp, filters_eq_error_iff]

/-- All forms of the same filters are read alike, as they are or as JSON text.  The clauses are
those of the entries in their order, each entry giving one or none on its own.  Filters are refused
only as text that is not JSON, or as a value of no known shape; and reading them ends otherwise only
where an entry asks for something by an operator that has no text. -/
theorem filters_list_entries :
    (∀ members decoded raw, decoded ∈ wireForms members → Reads raw decoded →
      filters raw = filters (.object members)) ∧
    (∀ raw clauses, filters raw = .ok clauses ↔
      ∃ decoded, Reads raw decoded ∧ Lists decoded clauses) ∧
    (∀ raw error, filters raw = reject error ↔
      (∃ failure, Garbled raw failure ∧ error = .notJson "filters" failure) ∨
        ∃ decoded, Reads raw decoded ∧ ¬ HasShape decoded ∧ error = .notRecords) ∧
    ∀ raw fault, filters raw = giveUp fault ↔ HasOverlong raw ∧ fault = .hugeText := by
  refine ⟨fun members decoded raw form reads => ?_, fun raw clauses => filters_eq_ok_iff,
    fun raw error => filters_eq_reject_iff, fun raw fault => filters_eq_giveUp_iff⟩
  rw [filters, decode_eq_ok_iff.mpr reads]
  exact ofDecoded_wireForms form

/-- The filters that ask of a field, by an operator, for the number one. -/
def oneBy (operator : Value) : Value :=
  .object [("a", .object [("matchMode", operator), ("value", .int 1)])]

theorem hasOverlong_oneBy {operator : Value} (huge : operator.HoldsHuge) :
    HasOverlong (oneBy operator) := by
  have asked : Overlong (.str "a") operator (.int 1) :=
    .operator (by decide +kernel) (by decide +kernel)
      (fun nothing => absurd (Value.void_iff.mp nothing) (by decide)) huge
  refine .object List.mem_cons_self ?_
  simpa [Members.value, Members.value?, List.lookup_cons] using asked

/-- An empty tuple asks for nothing, though it is neither null nor an empty text or list; and an
operator with a digit too many ends the reading of filters that have a known shape. -/
theorem filters_leave_out_empty_tuple :
    (Value.tuple [] ∉ [Value.null, .str "", .list []] ∧
      filters (.object [("tags", .object [("value", .tuple []), ("matchMode", .str "in")])]) =
        .ok []) ∧
    HasShape (oneBy (.int (tenTo Integer.digitLimit))) ∧
      filters (oneBy (.int (tenTo Integer.digitLimit))) = giveUp .hugeText := by
  refine ⟨⟨by simp, ?_⟩, .object, ?_⟩
  · refine filters_eq_ok_iff.mpr ⟨_, .plain (by simp) (by simp), .object (.none (.entry ?_) .nil)⟩
    exact .void (.inr (.inr (.inr rfl)))
  · have huge : Value.HoldsHuge (.int (tenTo Integer.digitLimit)) :=
      .int (Integer.lt_length_toDigits (by decide))
    exact filters_eq_giveUp_iff.mpr ⟨hasOverlong_oneBy huge, rfl⟩

end Clause

end GridQuery
