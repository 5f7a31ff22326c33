import GridQuery.Proofs.BlankValue
import GridQuery.Proofs.MomentText
import GridQuery.Proofs.Numerals
import GridQuery.Proofs.WholeDay

/-!
Values and the texts that spell them.  A value of the kind of its column and a
text of it, among blanks, are brought to the same value of the column.  So a
filter that is sent as text and the one that is built from the value itself
are the same condition, alone and among the items of a list or the bounds of a
range.
-/

namespace GridQuery

open Text Coercion

theorem Text.strip_among_blanks {before cs after : List Char}
    (blankBefore : before.all isBlank = true) (blankAfter : after.all isBlank = true)
    (front : ∀ c ∈ cs.head?, isBlank c = false) (behind : ∀ c ∈ cs.getLast?, isBlank c = false) :
    strip (String.ofList (before ++ cs ++ after)) = String.ofList cs := by
  have dropped : ∀ c ∈ before, isBlank c = true := by simpa using blankBefore
  have cut : ∀ c ∈ after, isBlank c = true := by simpa using blankAfter
  have untouched : trimWhere isBlank cs = cs := trimWhere_eq_self front behind
  have same : trimWhere isBlank (before ++ cs ++ after) = trimWhere isBlank cs := by
    rw [trimWhere, List.append_assoc, List.dropWhile_append_of_pos dropped]
    cases cs with
    | nil => simp [trimWhere, List.dropWhile_eq_nil_iff.mpr cut]
    | cons first rest =>
        have given : isBlank first = false := front first rfl
        rw [trimWhere, List.cons_append, List.dropWhile_cons_of_neg (by simp [given]),
          List.dropWhile_cons_of_neg (by simp [given]), ← List.cons_append, List.reverse_append,
          List.dropWhile_append_of_pos fun c member => cut c (List.mem_reverse.mp member)]
  rw [strip, String.toList_ofList, stripChars, same, untouched]

namespace Value

/-- A value of the kind of a column that its text can be read back to: an integer has no more
digits than are read, a decimal has its exponents in range, and offsets are of whole seconds. -/
inductive Belongs : ColumnKind → Value → Prop
  | integer {n : Int} (short : (Nat.toDigits 10 n.natAbs).length ≤ Integer.digitLimit) :
      Belongs .integer (.int n)
  | numeric {negative : Bool} {coefficient : Nat} {exponent : Int}
      (inRange : Decimal.isInRange coefficient exponent = true) :
      Belongs .numeric (.decimal (.finite negative coefficient exponent))
  | boolean (b : Bool) : Belongs .boolean (.bool b)
  | uuid (id : Uuid) : Belongs .uuid (.uuid id)
  | date (day : Date) : Belongs .date (.date day)
  | dayOfMoment {time : Moment} (whole : time.HasWholeOffset) : Belongs .date (.moment time)
  | moment {time : Moment} (whole : time.HasWholeOffset) : Belongs .moment (.moment time)

/-- The form in which a column of a kind keeps a value: moments by universal time unless they have
an offset, and in a column of days the day alone. -/
def heldBy : ColumnKind → Value → Value
  | .moment, .moment time => .moment time.assumeUtc
  | .date, .moment time => .date time.date
  | _, value => value

/-- The spellings of a value: its own text, and every text of a moment. -/
inductive Spelling : Value → List Char → Prop
  | own {value : Value} {text : String} (written : value.text? = some text) :
      Spelling value text.toList
  | moment {time : Moment} {cs : List Char} (spelling : time.Spelling cs) :
      Spelling (.moment time) cs

/-- A text that spells a value, with any blanks around it. -/
inductive Writes : Value → Value → Prop
  | intro {value : Value} {before cs after : List Char} (spelling : Spelling value cs)
      (blankBefore : before.all Text.isBlank = true) (blankAfter : after.all Text.isBlank = true) :
      Writes (.str (String.ofList (before ++ cs ++ after))) value

theorem Spelling.text?_eq {value : Value} {cs : List Char} (spelling : Spelling value cs)
    (noMoment : ∀ time, value ≠ .moment time) : value.text? = some (String.ofList cs) := by
  cases spelling with
  | own written => rw [written, String.ofList_toList]
  | moment => exact absurd rfl (noMoment _)

theorem Spelling.of_moment {time : Moment} {cs : List Char}
    (spelling : Spelling (.moment time) cs) : time.Spelling cs := by
  cases spelling with
  | own written =>
      obtain rfl := Option.some.inj written
      rw [Moment.spacedText, String.toList_ofList]
      exact .plain (by decide)
  | moment spelling => exact spelling

theorem text?_bool (b : Bool) : (Value.bool b).text? = some (if b then "True" else "False") := rfl

theorem eq_text_of_text?_int {n : Int} {s : String} (written : (Value.int n).text? = some s) :
    s = Integer.text n := by
  simp only [text?, literal?, Integer.text?] at written
  split at written
  · simp at written
  · exact (Option.some.inj written).symm

variable {kind : ColumnKind} {value : Value}

theorem Belongs.isBlank_eq (belongs : Belongs kind value)
    (noMoment : ∀ time, value ≠ .moment time) {s : String} (written : value.text? = some s) :
    ∀ c ∈ s.toList, Text.isBlank c = false := by
  intro c member
  cases belongs with
  | integer =>
      rw [eq_text_of_text?_int written] at member
      exact (Integer.isFigure_text member).isBlank_eq
  | numeric =>
      obtain rfl := Option.some.inj written
      exact (Decimal.isFigure_text member).isBlank_eq
  | boolean b =>
      obtain rfl := Option.some.inj written
      have given : ∀ b : Bool,
          (if b then "True" else "False").toList.all (!Text.isBlank ·) = true := by
        decide +kernel
      simpa using List.all_eq_true.mp (given b) c member
  | uuid id =>
      obtain rfl := Option.some.inj written
      exact Uuid.isBlank_of_mem_text member
  | date day =>
      obtain rfl := Option.some.inj written
      have inside : c ∈ day.isoChars := by simpa [Date.isoText] using member
      exact day.writesDay_isoChars.isBlank_eq inside
  | dayOfMoment | moment => exact absurd rfl (noMoment _)

theorem Spelling.ends {cs : List Char} (spelling : Spelling value cs)
    (belongs : Belongs kind value) :
    (∀ c ∈ cs.head?, Text.isBlank c = false) ∧ ∀ c ∈ cs.getLast?, Text.isBlank c = false := by
  by_cases isMoment : ∃ time, value = .moment time
  · obtain ⟨time, rfl⟩ := isMoment
    exact spelling.of_moment.ends
  · rw [not_exists] at isMoment
    have given := belongs.isBlank_eq isMoment (spelling.text?_eq isMoment)
    rw [String.toList_ofList] at given
    exact ⟨fun c first => given c (List.mem_of_mem_head? first),
      fun c last => given c (List.mem_of_mem_getLast? last)⟩

theorem Writes.exists_spelling {text : Value} (writes : Writes text value)
    (belongs : Belongs kind value) :
    ∃ s cs, text = .str s ∧ strip s = String.ofList cs ∧ Spelling value cs := by
  obtain ⟨spelling, blankBefore, blankAfter⟩ := writes
  obtain ⟨front, behind⟩ := spelling.ends belongs
  exact ⟨_, _, rfl, strip_among_blanks blankBefore blankAfter front behind, spelling⟩

theorem toDate_of_spelling {s : String} {cs : List Char} {time : Moment}
    (stripped : strip s = String.ofList cs) (spelling : time.Spelling cs)
    (whole : time.HasWholeOffset) (label : String) :
    toDate label (.str s) = .ok time.date := by
  simp [toDate, givenText?_str, written, bind, Except.bind, stripped, spelling.hasTime_eq,
    spelling.ofIso?_eq whole]

theorem readNumber_str {Number : Type} {read? : String → Option Number} {number : Number}
    {s t : String} (stripped : strip s = t) (figures : ∀ c ∈ t.toList, Numeral.IsFigure c)
    (nonempty : t ≠ "") (reads : read? t = some number) (label : String) :
    readNumber label read? (.str s) = .ok number := by
  have noComma : ',' ∉ t.toList := fun member =>
    Numeral.not_isFigure_of (by decide) (by decide) (figures ',' member)
  have given : t.isEmpty = false := by simpa using nonempty
  simp [readNumber, bind, Except.bind, stripped, given, replaceWord_of_notMem noComma, reads]

theorem Belongs.coerce_eq {column : Column} (belongs : Belongs column.kind value) :
    coerce column value = .ok (value.heldBy column.kind) := by
  rw [coerce]
  generalize column.kind = kind at belongs
  cases belongs <;> rfl

/-- A text of such a value, without the blanks around it, is the text of the value. -/
theorem Spelling.strip_eq {s t : String} {cs : List Char} (spelling : Spelling value cs)
    (stripped : strip s = String.ofList cs) (noMoment : ∀ time, value ≠ .moment time)
    (written : value.text? = some t) : strip s = t := by
  rw [stripped]
  exact Option.some.inj ((spelling.text?_eq noMoment).symm.trans written)

theorem Writes.coerce_eq {column : Column} {text : Value} (writes : Writes text value)
    (belongs : Belongs column.kind value) :
    coerce column text = .ok (value.heldBy column.kind) := by
  obtain ⟨s, cs, rfl, stripped, spelling⟩ := writes.exists_spelling belongs
  rw [coerce]
  generalize column.kind = kind at belongs
  cases belongs with
  | @integer n short =>
      have own : strip s = Integer.text n :=
        stripped.trans (eq_text_of_text?_int (spelling.text?_eq (by simp)))
      have nonempty : Integer.text n ≠ "" := by
        simp [Integer.text]
      have read := readNumber_str own (fun c => Integer.isFigure_text) nonempty
        (Integer.ofText?_text short) column.label
      simp only [toInteger, read]
      rfl
  | @numeric negative coefficient exponent inRange =>
      have own : strip s = Decimal.text (.finite negative coefficient exponent) :=
        spelling.strip_eq stripped (by simp) rfl
      have read := readNumber_str own (fun c => Decimal.isFigure_text) Decimal.text_ne_empty
        (Decimal.ofText?_text inRange) column.label
      simp only [toNumeric, read]
      rfl
  | boolean b =>
      have own : strip s = if b then "True" else "False" :=
        spelling.strip_eq stripped (by simp) (text?_bool b)
      have word : ∀ b : Bool,
          truthWords.lookup (fold (if b then "True" else "False")) = some b := by
        decide +kernel
      have read : Coercion.toBool column.label (.str s) = .ok b := by
        simp [Coercion.toBool, textOrEmpty, bind, Except.bind, own, word]
      simp only [read]
      rfl
  | uuid id =>
      have own : strip s = id.text := spelling.strip_eq stripped (by simp) rfl
      simp only [toUuid, givenText?_str, own, Option.bind_some, Uuid.ofText?_text]
      rfl
  | date day =>
      have own : strip s = day.isoText := spelling.strip_eq stripped (by simp) rfl
      have writesDay : WritesDay (.str s) day := .text own day.writesDay_isoChars
      simp only [writesDay.toDate_eq]
      rfl
  | dayOfMoment whole =>
      simp only [toDate_of_spelling stripped spelling.of_moment whole]
      rfl
  | moment whole =>
      simp only [toMoment, givenText?_str, written, bind, Except.bind, stripped,
        spelling.of_moment.readMoment?_eq whole]
      rfl

theorem Writes.coerce_bool {column : Column} {text : Value} {b : Bool}
    (writes : Writes text (.bool b)) (integers : column.kind = .integer) :
    coerce column text = refuse column.label .number := by
  obtain ⟨s, cs, rfl, stripped, spelling⟩ := writes.exists_spelling (.boolean b)
  have own : strip s = if b then "True" else "False" :=
    spelling.strip_eq stripped (by simp) (text?_bool b)
  have given : ∀ b : Bool, (if b then "True" else "False").isEmpty = false := by simp
  have unread : ∀ b : Bool, Integer.ofText?
      (String.ofList (replaceWord [','] ['.'] (if b then "True" else "False").toList)) = none := by
    decide +kernel
  have refused : readNumber column.label Integer.ofText? (.str s) =
      refuse column.label .number := by
    simp only [readNumber, text_str, bind, Except.bind, own, given, unread, Bool.false_eq_true,
      if_false]
  rw [coerce, integers]
  unfold toInteger
  simp only [refused]
  rfl

theorem toDate_eq_of_givenText {s : String} (noMoment : ∀ time, value ≠ .moment time)
    (noDay : ∀ day, value ≠ .date day) (same : givenText? value = givenText? (.str s))
    (label : String) : toDate label value = toDate label (.str s) := by
  cases value with
  | moment => exact absurd rfl (noMoment _)
  | date => exact absurd rfl (noDay _)
  | _ =>
      unfold toDate
      simp only [same]

theorem toDate_refused {s : String} (noTime : hasTime (strip s) = false)
    (noDay : Date.ofIso? (strip s) = none) (label : String) :
    toDate label (.str s) = refuse label .date := by
  simp [toDate, givenText?_str, written, bind, Except.bind, noTime, noDay]

/-- The text of a zero is no day: at most one digit stands at its front. -/
theorem ofIso?_zero (negative : Bool) (exponent : Int) :
    Date.ofIso? (Decimal.text (.finite negative 0 exponent)) = none := by
  obtain ⟨rest, shape, ends⟩ := Decimal.magnitudeText_zero exponent
  have noYear : Iso.takeNumber 4 (Decimal.text (.finite negative 0 exponent)).toList = none := by
    rw [Decimal.text, String.toList_ofList, shape]
    apply if_neg
    rintro ⟨length, digital⟩
    cases negative with
    | true => simp [Decimal.signText, Char.isDigit] at digital
    | false =>
        cases rest with
        | nil => simp [Decimal.signText] at length
        | cons c rest => simp [Decimal.signText, ends c rfl] at digital
  have unread (size : Nat) :
      Iso.readDay size (Decimal.text (.finite negative 0 exponent)).toList = none := by
    simp [Iso.readDay, noYear]
  simp [Date.ofIso?, unread]

/-- A value that does not count as given has no day for its text. -/
theorem Belongs.noDay_of_untruthy (belongs : Belongs kind value)
    (untruthy : value.isTruthy = false) {s : String} (written : value.text? = some s) :
    hasTime s = false ∧ Date.ofIso? s = none := by
  cases belongs with
  | @integer n =>
      obtain rfl : n = 0 := by simpa [isTruthy] using untruthy
      rw [eq_text_of_text?_int written]
      decide +kernel
  | @numeric negative coefficient exponent =>
      obtain rfl : coefficient = 0 := by simpa [isTruthy, Decimal.isZero] using untruthy
      obtain rfl := Option.some.inj written
      refine ⟨?_, ofIso?_zero negative exponent⟩
      have absent {c : Char} (noFigure : ¬ Numeral.IsFigure c) :
          c ∉ (Decimal.text (.finite negative 0 exponent)).toList :=
        fun member => noFigure (Decimal.isFigure_text member)
      have noLetter := absent (Numeral.not_isFigure_of (c := 'T') (by decide) (by decide))
      have noBlank := absent (Numeral.not_isFigure_of (c := ' ') (by decide) (by decide))
      simp [hasTime, noLetter, noBlank]
  | boolean b =>
      obtain rfl : b = false := untruthy
      obtain rfl := Option.some.inj written
      decide +kernel
  | uuid | date | dayOfMoment | moment => simp [isTruthy] at untruthy

theorem Writes.toDate_eq {text : Value} (writes : Writes text value) (belongs : Belongs kind value)
    (label : String) : toDate label text = toDate label value := by
  obtain ⟨s, cs, rfl, stripped, spelling⟩ := writes.exists_spelling belongs
  by_cases isMoment : ∃ time, value = .moment time
  · obtain ⟨time, rfl⟩ := isMoment
    have whole : time.HasWholeOffset := by cases belongs <;> assumption
    exact toDate_of_spelling stripped spelling.of_moment whole label
  rw [not_exists] at isMoment
  have own : value.text? = some (strip s) := by rw [spelling.text?_eq isMoment, stripped]
  by_cases isDay : ∃ day, value = .date day
  · obtain ⟨day, rfl⟩ := isDay
    have writesDay : WritesDay (.str s) day :=
      .text (Option.some.inj own).symm day.writesDay_isoChars
    exact writesDay.toDate_eq label
  rw [not_exists] at isDay
  cases truthy : value.isTruthy with
  | true =>
      have given : givenText? value = givenText? (.str s) := by
        rw [givenText?, orElse, if_pos truthy, own, givenText?_str, Option.map_some, strip_strip]
      exact (toDate_eq_of_givenText isMoment isDay given label).symm
  | false =>
      obtain ⟨noTime, noDay⟩ := belongs.noDay_of_untruthy truthy own
      have given : givenText? value = givenText? (.str "") := by
        rw [givenText?, orElse, if_neg (by simp [truthy])]
        rfl
      rw [toDate_eq_of_givenText isMoment isDay given, toDate_refused noTime noDay,
        toDate_blank label rfl]

theorem Writes.namesDay_eq {text : Value} (writes : Writes text value)
    (belongs : Belongs .moment value) : namesDay text = namesDay value := by
  obtain ⟨s, cs, rfl, stripped, spelling⟩ := writes.exists_spelling belongs
  cases belongs
  simp [namesDay, stripped, spelling.of_moment.hasTime_eq]

theorem Writes.own {s : String} (written : value.text? = some s) : Writes (.str s) value := by
  have bare : String.ofList ([] ++ s.toList ++ []) = s := by
    simp
  rw [← bare]
  exact .intro (.own written) rfl rfl

theorem Writes.exists_str {text : Value} (writes : Writes text value) : ∃ s, text = .str s := by
  obtain ⟨-, -, -⟩ := writes
  exact ⟨_, rfl⟩

theorem Writes.ne_empty {text : Value} {column : Column} (writes : Writes text value)
    (belongs : Belongs column.kind value) : text ≠ .str "" := by
  intro empty
  have refuses : column.kind.takesEmpty = false := by
    generalize column.kind = kind at belongs
    cases belongs <;> rfl
  obtain ⟨expected, refused⟩ := coerce_empty_of_not_takesEmpty (.inl empty) refuses
  rw [writes.coerce_eq belongs] at refused
  simp [refuse, reject] at refused

end Value

namespace Filter

open MatchMode Value

/-- A value as it is, or a text of it. -/
def Written (kind : ColumnKind) (text value : Value) : Prop :=
  text = value ∨ value.Belongs kind ∧ text.Writes value

/-- What a filter is sent with and the typed value that it means: the value's own text in any mode,
and any text of it, alone or as an item, in a mode that does not look for a part of a text. -/
inductive Means (kind : ColumnKind) : MatchMode → Value → Value → Prop
  | own (mode : MatchMode) {value : Value} {s : String} (belongs : value.Belongs kind)
      (written : value.text? = some s) : Means kind mode (.str s) value
  | alone {mode : MatchMode} {text value : Value} (wholeText : mode ∉ MatchMode.substringModes)
      (belongs : value.Belongs kind) (writes : text.Writes value) : Means kind mode text value
  | list {mode : MatchMode} {texts values : List Value} (takesItems : mode ∈ listModes ++ [between])
      (written : List.Forall₂ (Written kind) texts values) :
      Means kind mode (.list texts) (.list values)
  | tuple {mode : MatchMode} {texts values : List Value}
      (takesItems : mode ∈ listModes ++ [between])
      (written : List.Forall₂ (Written kind) texts values) :
      Means kind mode (.tuple texts) (.tuple values)
  | set {mode : MatchMode} {texts values : List Value} (takesItems : mode ∈ listModes ++ [between])
      (written : List.Forall₂ (Written kind) texts values) :
      Means kind mode (.set texts) (.set values)

section Written

variable {field : Field} {text value : Value}

theorem coerce_written {column : Column} (written : Written column.kind text value) :
    coerce column text = coerce column value := by
  rcases written with rfl | ⟨belongs, writes⟩
  · rfl
  · rw [writes.coerce_eq belongs, belongs.coerce_eq]

theorem isNull_written {kind : ColumnKind} (written : Written kind text value) :
    text.isNull = value.isNull := by
  rcases written with rfl | ⟨belongs, writes⟩
  · rfl
  · obtain ⟨s, rfl⟩ := writes.exists_str
    cases belongs <;> rfl

theorem wholeDay_written (written : Written field.column.kind text value) :
    (holdsMoments field && namesDay text) = (holdsMoments field && namesDay value) := by
  rcases written with rfl | ⟨belongs, writes⟩
  · rfl
  cases moments : holdsMoments field with
  | false => rfl
  | true =>
      have kind : field.column.kind = .moment := by simpa [holdsMoments] using moments
      rw [kind] at belongs
      rw [writes.namesDay_eq belongs]

section Single

variable {kind : ColumnKind} (belongs : value.Belongs kind)

include belongs

theorem scalar_of_belongs : scalar field value = coerce field.column value := by
  cases belongs <;> rfl

theorem bound?_of_belongs : bound? field value = some <$> coerce field.column value := by
  cases belongs <;> rfl

theorem rangeOf_of_belongs : rangeOf field value = refuse field.column.label .range := by
  cases belongs <;> rfl

theorem substring_of_belongs (negated : Bool) (anchor : Anchor) {s : String}
    (written : value.text? = some s) :
    substring field negated anchor (.str s) = substring field negated anchor value := by
  have text : value.text = .ok s := text_eq_ok_iff.mpr written
  cases belongs <;> simp only [substring, text, text_str]

theorem membership_of_belongs (negated : Bool) :
    membership field negated value = membership field negated (.list [value]) := by
  cases belongs <;> rfl

end Single

theorem bound?_written (written : Written field.column.kind text value) :
    bound? field text = bound? field value := by
  have coerced := coerce_written written
  rcases written with rfl | ⟨belongs, writes⟩
  · rfl
  · have given := writes.ne_empty belongs
    obtain ⟨s, rfl⟩ := writes.exists_str
    have nonempty : s.isEmpty = false := by
      simpa using given
    have sent : bound? field (.str s) = some <$> coerce field.column (.str s) := by
      simp [bound?, nonempty]
    rw [sent, coerced, bound?_of_belongs belongs]

theorem range_written {low high otherLow otherHigh : Value}
    (lowWritten : Written field.column.kind low otherLow)
    (highWritten : Written field.column.kind high otherHigh) :
    range field low high = range field otherLow otherHigh := by
  simp only [range, bound?_written lowWritten, bound?_written highWritten,
    wholeDay_written highWritten]

section Items

variable {texts values : List Value}
  (written : List.Forall₂ (Written field.column.kind) texts values)

include written

theorem mapM_coerce_written :
    (texts.filter (!·.isNull)).mapM (coerce field.column) =
      (values.filter (!·.isNull)).mapM (coerce field.column) := by
  induction written with
  | nil => rfl
  | cons itemWritten _ inductionHypothesis =>
      rw [List.filter_cons, List.filter_cons, isNull_written itemWritten]
      split
      · rw [List.mapM_cons, List.mapM_cons, coerce_written itemWritten, inductionHypothesis]
      · exact inductionHypothesis

theorem membership_written (negated : Bool) :
    membership field negated (.list texts) = membership field negated (.list values) := by
  simp only [membership, itemsOf, mapM_coerce_written written]

theorem rangeOf_written : rangeOf field (.list texts) = rangeOf field (.list values) := by
  cases written with
  | nil => rfl
  | cons low rest =>
      cases rest with
      | nil => rfl
      | cons high more =>
          cases more with
          | nil => exact range_written low high
          | cons => rfl

end Items

/-- Alone, a value and a text of it give the same condition in every mode that does not look for
a part of a text. -/
theorem build_writes {mode : MatchMode} (wholeText : mode ∉ MatchMode.substringModes)
    (belongs : value.Belongs field.column.kind) (writes : text.Writes value) :
    build field mode text = build field mode value := by
  have written : Written field.column.kind text value := .inr ⟨belongs, writes⟩
  have wholeDay := wholeDay_written written
  have coerced := coerce_written written
  have sameDay := writes.toDate_eq belongs field.column.label
  obtain ⟨s, rfl⟩ := writes.exists_str
  have read : scalar field (.str s) = scalar field value := by
    rw [scalar_of_belongs belongs, ← coerced]
    rfl
  have ofDay (relation : DayRelation) :
      some <$> byDay field relation (.str s) = some <$> byDay field relation value := by
    simp only [byDay, sameDay]
  have ofEquality (negated : Bool) :
      some <$> equal field negated (.str s) = some <$> equal field negated value := by
    simp only [equal, read, wholeDay]
  have ofOrder (comparison : Comparison) :
      some <$> byOrder field comparison (.str s) = some <$> byOrder field comparison value := by
    simp only [byOrder, read]
  have ofItems (negated : Bool) :
      membership field negated (.str s) = membership field negated value := by
    rw [membership_of_belongs belongs, ← membership_written (.cons written .nil)]
    rfl
  cases mode with
  | contains | notContains | startsWith | endsWith => simp [MatchMode.substringModes] at wholeText
  | dateIs | dateIsNot | dateBefore | dateAfter => exact ofDay _
  | isIn | notIn => exact ofItems _
  | between => exact (rangeOf_of_belongs belongs).symm
  | equals | notEquals => exact ofEquality _
  | lt | lte | gt | gte => exact ofOrder _

theorem build_means {mode : MatchMode} (means : Means field.column.kind mode text value) :
    build field mode text = build field mode value := by
  cases means with
  | own belongs written =>
      by_cases wholeText : mode ∈ MatchMode.substringModes
      · simp only [MatchMode.substringModes, List.mem_cons, List.not_mem_nil, or_false] at wholeText
        rcases wholeText with rfl | rfl | rfl | rfl <;>
          simp only [build, substring_of_belongs belongs _ _ written]
      · exact build_writes wholeText belongs (.own written)
  | alone wholeText belongs writes => exact build_writes wholeText belongs writes
  | list takesItems written =>
      rcases mem_itemModes takesItems with rfl | rfl | rfl
      · exact membership_written written false
      · exact membership_written written true
      · exact rangeOf_written written
  | tuple takesItems written =>
      rcases mem_itemModes takesItems with rfl | rfl | rfl
      · exact membership_written written false
      · exact membership_written written true
      · rw [build, build, rangeOf_tuple, rangeOf_tuple, rangeOf_written written]
  | set takesItems written =>
      rcases mem_itemModes takesItems with rfl | rfl | rfl
      · exact membership_written written false
      · exact membership_written written true
      · rfl

end Written

/-- A value that belongs to a column and a text that spells it are brought to the same value of the
column; a column of integers refuses a truth value in both forms.  A filter means the same with the
text as with the value: in every mode with the text of the value itself, and with any spelling in a
mode that does not look for a part of a text. -/
theorem texts_mean_values :
    (∀ (column : Column) (text value : Value), value.Belongs column.kind → text.Writes value →
      coerce column text = .ok (value.heldBy column.kind) ∧
        coerce column value = .ok (value.heldBy column.kind)) ∧
    (∀ (column : Column) (text : Value) (b : Bool), column.kind = .integer →
      text.Writes (.bool b) →
        coerce column text = refuse column.label .number ∧
          coerce column (.bool b) = refuse column.label .number) ∧
    ∀ (path : FieldPath) (mode : MatchMode) (text value : Value),
      Means path.field.column.kind mode text value →
        compile path mode text = compile path mode value := by
  refine ⟨?_, ?_, ?_⟩
  · intro column text value belongs writes
    exact ⟨writes.coerce_eq belongs, belongs.coerce_eq⟩
  · intro column text b integers writes
    exact ⟨writes.coerce_bool integers, by rw [coerce, integers, toInteger]⟩
  · intro path mode text value means
    rw [compile, compile, build_means means]

/-- An early moment with microseconds and an offset with seconds behind universal time, and a
decimal with an exponent: their texts, with blanks around them, ask for what they ask for. -/
theorem texts_mean_values_products :
    let deletedAt : Field := Sample.field Sample.product.table "deleted_at" .moment
    let price : Field := Sample.field Sample.product.table "price" .numeric
    let early : Moment := ⟨⟨99, 3, 1, by decide⟩, ⟨5, 7, 9, 12, by decide⟩,
      some ⟨-43170000000, by decide⟩⟩
    let tiny : Value := .decimal (.finite true 150 (-11))
    coerce deletedAt.column (.str "\t0099-03-01T05:07:09.000012-11:59:30 ") = .ok (.moment early) ∧
      compile ⟨"price", [], price⟩ .isIn (.list [.null, .str " -1.50E-9"]) =
        compile ⟨"price", [], price⟩ .isIn (.list [.null, tiny]) := by
  intro deletedAt price early tiny
  obtain ⟨coerced, -, same⟩ := texts_mean_values
  have moment : Value.Belongs .moment (.moment early) := .moment fun offset known => by
    obtain rfl := Option.mem_some.mp known
    exact ⟨-43170, by decide⟩
  have momentText : String.ofList (['\t'] ++ early.isoChars 'T' ++ [' ']) =
      "\t0099-03-01T05:07:09.000012-11:59:30 " := by decide +kernel
  have writesMoment :
      Value.Writes (.str "\t0099-03-01T05:07:09.000012-11:59:30 ") (.moment early) := by
    rw [← momentText]
    exact .intro (.moment (.plain (by decide))) (by decide) (by decide)
  have decimal : Value.Belongs .numeric tiny := .numeric (by decide +kernel)
  have decimalText : String.ofList ([' '] ++ "-1.50E-9".toList ++ []) = " -1.50E-9" := by
    decide +kernel
  have writesDecimal : Value.Writes (.str " -1.50E-9") tiny := by
    rw [← decimalText]
    exact .intro (.own (by decide +kernel)) (by decide) (by decide)
  exact ⟨(coerced deletedAt.column _ _ moment writesMoment).1, same ⟨"price", [], price⟩ _ _ _
    (.list (by decide) (.cons (.inl rfl) (.cons (.inr ⟨decimal, writesDecimal⟩) .nil)))⟩

end Filter

end GridQuery
