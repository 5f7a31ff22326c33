import GridQuery.Coercion
import GridQuery.Proofs.Resolution
import Mathlib.Data.String.Basic

/-!
Texts of days.  A day is written in six forms: as year, month and day or as
year, week and weekday, each with hyphens or without, and as a year and a week
that stands for its Monday.  The reader of days and the reader of moments take
every such text for the same day.
-/

namespace GridQuery

open Text

section Digits

def IsNumber (width : Nat) (digits : List Char) : Prop :=
  digits.length = width ∧ ∀ c ∈ digits, c.isDigit = true

theorem ne_of_isDigit {c other : Char} (digit : c.isDigit = true)
    (noDigit : other.isDigit = false) : c ≠ other := by
  rintro rfl
  exact Bool.noConfusion (digit.symm.trans noDigit)

theorem Iso.takeNumber_append {width : Nat} {digits : List Char} (number : IsNumber width digits)
    (rest : List Char) :
    takeNumber width (digits ++ rest) = some (Numeral.valueOf digits, rest) := by
  obtain ⟨rfl, digital⟩ := number
  have whole : digits.all Char.isDigit = true := List.all_eq_true.mpr digital
  simp [takeNumber, whole]

theorem isDigit_hexDigit {n : Nat} (small : n < 10) :
    (hexDigit n).isDigit = true ∧ (hexDigit n).toNat - '0'.toNat = n := by
  have digits : ∀ n < 10, (hexDigit n).isDigit = true ∧ (hexDigit n).toNat - '0'.toNat = n := by
    decide
  exact digits n small

theorem isNumber_paddedDecimal (width n : Nat) : IsNumber width (paddedDecimal width n) := by
  induction width generalizing n with
  | zero => exact ⟨rfl, by simp [paddedDecimal]⟩
  | succ width inductionHypothesis =>
      obtain ⟨length, digital⟩ := inductionHypothesis (n / 10)
      refine ⟨by simp [paddedDecimal, length], ?_⟩
      simp only [paddedDecimal, List.mem_append, List.mem_singleton]
      rintro c (earlier | rfl)
      · exact digital c earlier
      · exact (isDigit_hexDigit (Nat.mod_lt n (by omega))).1

theorem valueOf_paddedDecimal {width n : Nat} (fits : n < 10 ^ width) :
    Numeral.valueOf (paddedDecimal width n) = n := by
  induction width generalizing n with
  | zero =>
      obtain rfl : n = 0 := by simpa using fits
      rfl
  | succ width inductionHypothesis =>
      have earlier : Numeral.valueOf (paddedDecimal width (n / 10)) = n / 10 :=
        inductionHypothesis (by omega)
      have last := (isDigit_hexDigit (Nat.mod_lt n (by omega : 10 > 0))).2
      unfold Numeral.valueOf at earlier ⊢
      rw [paddedDecimal, List.foldl_append, earlier, List.foldl_cons, List.foldl_nil, last]
      omega

end Digits

namespace Iso

/-- The hyphen between two fields, in a form that has hyphens. -/
def hyphen (hyphens : Bool) : List Char :=
  if hyphens then ['-'] else []

/-- The texts of a day: its year, month and day; its year, week and weekday; and for a Monday its
year and week alone. -/
inductive WritesDay : List Char → Date → Prop
  | calendar {year month day : List Char} {date : Date} (hyphens : Bool)
      (yearDigits : IsNumber 4 year) (monthDigits : IsNumber 2 month) (dayDigits : IsNumber 2 day)
      (known : Date.ofFields? (Numeral.valueOf year) (Numeral.valueOf month) (Numeral.valueOf day) =
        some date) :
      WritesDay (year ++ hyphen hyphens ++ month ++ hyphen hyphens ++ day) date
  | weekday {year week weekday : List Char} {date : Date} (hyphens : Bool)
      (yearDigits : IsNumber 4 year) (weekDigits : IsNumber 2 week)
      (weekdayDigit : IsNumber 1 weekday)
      (known : Date.ofWeek? (Numeral.valueOf year) (Numeral.valueOf week)
        (Numeral.valueOf weekday) = some date) :
      WritesDay (year ++ hyphen hyphens ++ 'W' :: week ++ hyphen hyphens ++ weekday) date
  | week {year week : List Char} {date : Date} (hyphens : Bool)
      (yearDigits : IsNumber 4 year) (weekDigits : IsNumber 2 week)
      (known : Date.ofWeek? (Numeral.valueOf year) (Numeral.valueOf week) 1 = some date) :
      WritesDay (year ++ hyphen hyphens ++ 'W' :: week) date

variable {cs : List Char} {date : Date}

theorem WritesDay.length (writes : WritesDay cs date) :
    cs.length = 7 ∨ cs.length = 8 ∨ cs.length = 10 := by
  cases writes with
  | calendar hyphens yearDigits monthDigits dayDigits =>
      cases hyphens <;> simp [hyphen, yearDigits.1, monthDigits.1, dayDigits.1]
  | weekday hyphens yearDigits weekDigits weekdayDigit =>
      cases hyphens <;> simp [hyphen, yearDigits.1, weekDigits.1, weekdayDigit.1]
  | week hyphens yearDigits weekDigits =>
      cases hyphens <;> simp [hyphen, yearDigits.1, weekDigits.1]

theorem WritesDay.of_mem (writes : WritesDay cs date) {c : Char} (member : c ∈ cs) :
    c.isDigit = true ∨ c = '-' ∨ c = 'W' := by
  have ofHyphen {hyphens : Bool} (inside : c ∈ hyphen hyphens) : c = '-' := by
    cases hyphens <;> simp_all [hyphen]
  cases writes with
  | calendar hyphens yearDigits monthDigits dayDigits =>
      simp only [List.mem_append] at member
      rcases member with (((inYear | inMark) | inMonth) | inMark) | inDay
      · exact .inl (yearDigits.2 c inYear)
      · exact .inr (.inl (ofHyphen inMark))
      · exact .inl (monthDigits.2 c inMonth)
      · exact .inr (.inl (ofHyphen inMark))
      · exact .inl (dayDigits.2 c inDay)
  | weekday hyphens yearDigits weekDigits weekdayDigit =>
      simp only [List.mem_append, List.mem_cons] at member
      rcases member with (((inYear | inMark) | isMark | inWeek) | inMark) | inDay
      · exact .inl (yearDigits.2 c inYear)
      · exact .inr (.inl (ofHyphen inMark))
      · exact .inr (.inr isMark)
      · exact .inl (weekDigits.2 c inWeek)
      · exact .inr (.inl (ofHyphen inMark))
      · exact .inl (weekdayDigit.2 c inDay)
  | week hyphens yearDigits weekDigits =>
      simp only [List.mem_append, List.mem_cons] at member
      rcases member with (inYear | inMark) | isMark | inWeek
      · exact .inl (yearDigits.2 c inYear)
      · exact .inr (.inl (ofHyphen inMark))
      · exact .inr (.inr isMark)
      · exact .inl (weekDigits.2 c inWeek)

theorem exists_of_isNumber {width : Nat} {digits : List Char}
    (number : IsNumber (width + 1) digits) :
    ∃ c rest, digits = c :: rest ∧ c.isDigit = true ∧ IsNumber width rest := by
  obtain ⟨length, digital⟩ := number
  cases digits with
  | nil => simp at length
  | cons c rest =>
      obtain ⟨digit, others⟩ := List.forall_mem_cons.mp digital
      exact ⟨c, rest, rfl, digit, by simpa using length, others⟩

theorem WritesDay.readDay_eq (writes : WritesDay cs date) : readDay cs.length cs = some date := by
  cases writes with
  | calendar hyphens yearDigits monthDigits dayDigits known =>
      obtain ⟨c, rest, rfl, digit, -⟩ := exists_of_isNumber monthDigits
      have noHyphen : c ≠ '-' := ne_of_isDigit digit (by decide)
      have noWeek : c ≠ 'W' := ne_of_isDigit digit (by decide)
      have month := takeNumber_append monthDigits
      have day := takeNumber_append dayDigits []
      rw [List.append_nil] at day
      simp only [List.cons_append] at month
      cases hyphens <;>
        simp [readDay, hyphen, takeNumber_append yearDigits, month, noHyphen, noWeek, dropHyphen,
          dropChar, day, known]
  | @weekday _ _ weekday _ hyphens yearDigits weekDigits weekdayDigit known =>
      have short := weekdayDigit.1
      have day := takeNumber_append weekdayDigit []
      rw [List.append_nil] at day
      cases hyphens with
      | true =>
          simp only [readDay, hyphen, if_true, List.append_assoc, List.cons_append, List.nil_append,
            takeNumber_append yearDigits, takeNumber_append weekDigits, Option.bind_eq_bind,
            Option.bind_some, List.head?_cons, BEq.rfl, List.drop_succ_cons, List.drop_zero]
          rw [if_pos (by simp only [List.length_append, List.length_cons]; omega)]
          simp [dropHyphen, dropChar, day, known]
      | false =>
          simp [readDay, hyphen, takeNumber_append yearDigits, takeNumber_append weekDigits,
            dropHyphen, day, known, short]
  | week hyphens yearDigits weekDigits known =>
      have week := takeNumber_append weekDigits []
      rw [List.append_nil] at week
      cases hyphens <;> simp [readDay, hyphen, takeNumber_append yearDigits, week, known]

/-- A text of a day that is not ten characters long is all day to the reader of moments. -/
theorem WritesDay.dayLength_eq (writes : WritesDay cs date) (short : cs.length ≠ 10) :
    dayLength cs = cs.length := by
  cases writes with
  | @calendar _ month _ _ hyphens yearDigits monthDigits dayDigits =>
      obtain ⟨a, b, c, d, rfl⟩ := List.length_eq_four.mp yearDigits.1
      obtain ⟨m, n, rfl⟩ := List.length_eq_two.mp monthDigits.1
      have digit : m.isDigit = true := monthDigits.2 m (by simp)
      have noHyphen : m ≠ '-' := ne_of_isDigit digit (by decide)
      have noWeek : m ≠ 'W' := ne_of_isDigit digit (by decide)
      cases hyphens with
      | true => simp [hyphen, dayDigits.1] at short
      | false => simp [dayLength, hyphen, noHyphen, noWeek, dayDigits.1]
  | weekday hyphens yearDigits weekDigits weekdayDigit =>
      obtain ⟨a, b, c, d, rfl⟩ := List.length_eq_four.mp yearDigits.1
      obtain ⟨m, n, rfl⟩ := List.length_eq_two.mp weekDigits.1
      obtain ⟨e, rfl⟩ := List.length_eq_one_iff.mp weekdayDigit.1
      have digit : e.isDigit = true := weekdayDigit.2 e (by simp)
      cases hyphens with
      | true => simp [hyphen] at short
      | false => simp [dayLength, hyphen, digit]
  | week hyphens yearDigits weekDigits =>
      obtain ⟨a, b, c, d, rfl⟩ := List.length_eq_four.mp yearDigits.1
      obtain ⟨m, n, rfl⟩ := List.length_eq_two.mp weekDigits.1
      cases hyphens <;> simp [dayLength, hyphen]

end Iso

theorem replaceWord_of_absent {word cs : List Char} {c : Char} (letter : c ∈ word)
    (absent : c ∉ cs) (replacement : List Char) : replaceWord word replacement cs = cs := by
  induction cs with
  | nil => rw [replaceWord]
  | cons d rest inductionHypothesis =>
      have noPrefix : ¬ word.isPrefixOf (d :: rest) = true := by
        intro front
        exact absent ((List.isPrefixOf_iff_prefix.mp front).subset letter)
      rw [replaceWord, if_neg noPrefix, inductionHypothesis fun later => absent (.tail _ later)]

theorem replaceWord_of_notMem {c : Char} {cs : List Char} (absent : c ∉ cs)
    (replacement : List Char) : replaceWord [c] replacement cs = cs :=
  replaceWord_of_absent (List.mem_singleton.mpr rfl) absent replacement

theorem trimWhere_eq_self {Item : Type} {blank : Item → Bool} {items : List Item}
    (front : ∀ item ∈ items.head?, blank item = false)
    (behind : ∀ item ∈ items.getLast?, blank item = false) : trimWhere blank items = items := by
  have kept : items.dropWhile blank = items := by
    cases items with
    | nil => rfl
    | cons first rest =>
        have noBlank : blank first = false := front first rfl
        simp [noBlank]
  change (items.dropWhile blank).rdropWhile blank = items
  rw [kept]
  apply List.rdropWhile_eq_self_iff.mpr
  intro nonempty
  simp [behind _ (List.getLast_mem_getLast? nonempty)]

theorem trimWhere_of_forall {Item : Type} {blank : Item → Bool} {items : List Item}
    (given : ∀ item ∈ items, blank item = false) : trimWhere blank items = items :=
  trimWhere_eq_self (fun item first => given item (List.mem_of_mem_head? first))
    fun item last => given item (List.mem_of_mem_getLast? last)

theorem utf8ByteSize_of_ascii {cs : List Char} (ascii : ∀ c ∈ cs, c.toNat < 128) :
    (String.ofList cs).utf8ByteSize = cs.length := by
  rw [String.utf8ByteSize_ofList]
  induction cs with
  | nil => rfl
  | cons c rest inductionHypothesis =>
      obtain ⟨single, others⟩ := List.forall_mem_cons.mp ascii
      have oneByte : c.utf8Size = 1 := by
        apply Char.utf8Size_eq_one_iff.mpr
        change c.val.toNat ≤ 127
        exact Nat.le_of_lt_succ single
      rw [String.utf8Len_cons, inductionHypothesis others, oneByte, List.length_cons]

namespace Iso.WritesDay

variable {cs : List Char} {date : Date}

theorem notMem (writes : WritesDay cs date) {c : Char} (noDigit : c.isDigit = false)
    (noMark : c ≠ '-' ∧ c ≠ 'W') : c ∉ cs := by
  intro member
  rcases writes.of_mem member with digit | hyphen | week
  · exact ne_of_isDigit digit noDigit rfl
  · exact noMark.1 hyphen
  · exact noMark.2 week

theorem ascii (writes : WritesDay cs date) : ∀ c ∈ cs, c.toNat < 128 := by
  intro c member
  rcases writes.of_mem member with digit | rfl | rfl
  · exact Nat.lt_of_le_of_lt (toNat_of_isDigit digit).2 (by decide)
  · decide
  · decide

theorem isBlank_eq (writes : WritesDay cs date) {c : Char} (member : c ∈ cs) :
    isBlank c = false := by
  rcases writes.of_mem member with digit | rfl | rfl
  · exact isBlank_of_isDigit digit
  · decide
  · decide

theorem hasTime_eq (writes : WritesDay cs date) :
    Coercion.hasTime (String.ofList cs) = false := by
  have noLetter : 'T' ∉ cs := writes.notMem (by decide) (by decide)
  have noSpace : ' ' ∉ cs := writes.notMem (by decide) (by decide)
  simp [Coercion.hasTime, noLetter, noSpace]

theorem ofIso?_eq (writes : WritesDay cs date) : Date.ofIso? (String.ofList cs) = some date := by
  have size := utf8ByteSize_of_ascii writes.ascii
  simp only [Date.ofIso?, size, String.toList_ofList, writes.readDay_eq]
  exact if_pos writes.length

theorem readMoment?_eq (writes : WritesDay cs date) :
    Coercion.readMoment? (String.ofList cs) = some ⟨date, .midnight, none⟩ := by
  unfold Coercion.readMoment?
  by_cases long : cs.length = 10
  · rw [if_pos ⟨by simp [writes.hasTime_eq], by simpa using long⟩, writes.ofIso?_eq]
    rfl
  · have noZulu : 'Z' ∉ cs := writes.notMem (by decide) (by decide)
    have unchanged : Coercion.withoutZulu (String.ofList cs) = String.ofList cs := by
      simp [Coercion.withoutZulu, replaceWord_of_notMem noZulu]
    have enough : ¬ cs.length < 7 := by
      rcases writes.length with length | length | length <;> omega
    rw [if_neg fun short => long (by simpa using short.2), unchanged]
    simp [Moment.ofIso?, enough, writes.dayLength_eq long, writes.readDay_eq]

end Iso.WritesDay

theorem Date.fits (date : Date) : date.year < 10 ^ 4 ∧ date.month < 10 ^ 2 ∧ date.day < 10 ^ 2 := by
  obtain ⟨year, month, day, ⟨-, yearHigh⟩, ⟨-, monthHigh⟩, -, dayHigh⟩ := date
  have atMost : monthLength year month ≤ 31 := by
    unfold monthLength
    split <;> first | omega | (split <;> omega)
  dsimp only
  omega

theorem Date.writesDay_isoChars (date : Date) : Iso.WritesDay date.isoChars date := by
  obtain ⟨yearFits, monthFits, dayFits⟩ := date.fits
  have known : ofFields? date.year date.month date.day = some date := ofFields?_eq_some date.isDay
  have writes : Iso.WritesDay _ date := .calendar true (isNumber_paddedDecimal 4 date.year)
    (isNumber_paddedDecimal 2 date.month) (isNumber_paddedDecimal 2 date.day)
    (by rw [valueOf_paddedDecimal yearFits, valueOf_paddedDecimal monthFits,
      valueOf_paddedDecimal dayFits, known])
  simpa [isoChars, Iso.hyphen] using writes

theorem Date.strip_isoText (date : Date) : strip date.isoText = date.isoText := by
  have kept : stripChars date.isoChars = date.isoChars :=
    trimWhere_of_forall fun _ => date.writesDay_isoChars.isBlank_eq
  rw [strip, isoText, String.toList_ofList, kept]

end GridQuery
