import GridQuery.Proofs.IsoDay

/-!
Moments read back from their texts.  A moment is written as its day, a `T` or
a blank, its time of day and its offset, and a moment of universal time also
with a `Z` in place of the offset.  The reader takes each of them for the
moment itself, as long as its offset is a whole number of seconds.
-/

namespace GridQuery

open Text

/-- An offset of whole seconds. -/
def Offset.IsWhole (offset : Offset) : Prop :=
  1000000 ∣ offset.micros

theorem Clock.fits (clock : Clock) : clock.hour < 10 ^ 2 ∧ clock.minute < 10 ^ 2 ∧
    clock.second < 10 ^ 2 ∧ clock.micro < 10 ^ 6 := by
  obtain ⟨hourLow, minuteLow, secondLow, microLow⟩ := clock.isClock
  omega

namespace Iso

theorem paddedDecimal_ne_nil (width n : Nat) : paddedDecimal (width + 1) n ≠ [] := by
  simp [paddedDecimal]

section Fields

variable {left n : Nat} {fields : List Nat} {rest : List Char} (fits : n < 10 ^ 2)

include fits

theorem readFields_colon {colons : Option Bool} (separated : colons.getD true = true)
    (more : rest ≠ []) :
    readFields (left + 1) fields colons (paddedDecimal 2 n ++ ':' :: rest) =
      readFields left (fields ++ [n]) (some true) rest := by
  obtain ⟨next, later, rfl⟩ := List.exists_cons_of_ne_nil more
  rw [readFields, takeNumber_append (isNumber_paddedDecimal 2 n), valueOf_paddedDecimal fits]
  cases colons <;> simp_all

theorem readFields_last {colons : Option Bool} :
    readFields (left + 1) fields colons (paddedDecimal 2 n) = some ⟨fields ++ [n], 0, true⟩ := by
  have read := takeNumber_append (isNumber_paddedDecimal 2 n) []
  rw [List.append_nil, valueOf_paddedDecimal fits] at read
  rw [readFields, read]

theorem readFields_fraction {micro : Nat} (microFits : micro < 10 ^ 6) :
    readFields (left + 1) fields (some true) (paddedDecimal 2 n ++ '.' :: paddedDecimal 6 micro) =
      some ⟨fields ++ [n], micro, true⟩ := by
  obtain ⟨next, later, shape⟩ := List.exists_cons_of_ne_nil (paddedDecimal_ne_nil 5 micro)
  have sixth := isNumber_paddedDecimal 6 micro
  have read := takeNumber_append sixth []
  rw [List.append_nil, valueOf_paddedDecimal microFits] at read
  have fraction : readFraction (fields ++ [n]) (paddedDecimal 6 micro) =
      some ⟨fields ++ [n], micro, true⟩ := by
    simp [readFraction, sixth.1, read, endsHere, tenTo]
  rw [readFields, takeNumber_append (isNumber_paddedDecimal 2 n), valueOf_paddedDecimal fits]
  simp only [shape]
  rw [← shape, fraction]
  simp

end Fields

theorem readTime_minutes {hour minute : Nat} (hourFits : hour < 10 ^ 2)
    (minuteFits : minute < 10 ^ 2) :
    readTime (paddedDecimal 2 hour ++ ':' :: paddedDecimal 2 minute) =
      some ⟨[hour, minute], 0, true⟩ := by
  rw [readTime, readFields_colon hourFits rfl (paddedDecimal_ne_nil 1 _),
    readFields_last minuteFits]
  rfl

theorem readTime_seconds {hour minute second : Nat} (hourFits : hour < 10 ^ 2)
    (minuteFits : minute < 10 ^ 2) (secondFits : second < 10 ^ 2) :
    readTime (paddedDecimal 2 hour ++ ':' :: (paddedDecimal 2 minute ++
      ':' :: paddedDecimal 2 second)) = some ⟨[hour, minute, second], 0, true⟩ := by
  rw [readTime, readFields_colon hourFits rfl (by simp),
    readFields_colon minuteFits rfl (paddedDecimal_ne_nil 1 _), readFields_last secondFits]
  rfl

theorem readTime_clock (clock : Clock) :
    readTime clock.isoChars =
      some ⟨[clock.hour, clock.minute, clock.second], clock.micro, true⟩ := by
  obtain ⟨hourFits, minuteFits, secondFits, microFits⟩ := clock.fits
  rw [Clock.isoChars, Clock.secondsChars]
  simp only [List.append_assoc, List.cons_append]
  split
  next none =>
    rw [List.append_nil, readTime_seconds hourFits minuteFits secondFits, none]
  next some =>
    rw [readTime, readFields_colon hourFits rfl (by simp),
      readFields_colon minuteFits rfl (by simp), readFields_fraction secondFits microFits]
    rfl

/-- The mark of an offset of whole seconds, and what is written behind it. -/
theorem exists_zone {offset : Offset} (whole : offset.IsWhole) :
    ∃ zone reading, offset.isoChars = (if offset.micros < 0 then '-' else '+') :: zone ∧
      readTime zone = some reading ∧ reading.isWhole = true ∧ reading.micros = 0 ∧
      reading.hour * 3600 + reading.minute * 60 + reading.second =
        offset.micros.natAbs / 1000000 := by
  have bounded := offset.bounded
  have noFraction : offset.micros.natAbs % 1000000 = 0 :=
    Nat.mod_eq_zero_of_dvd (Int.natAbs_dvd_natAbs.mpr whole)
  generalize secondsEq : offset.micros.natAbs / 1000000 = seconds
  have withinDay : seconds < 86400 := by
    unfold dayMicros at bounded
    omega
  by_cases fullMinute : seconds % 60 = 0
  · have read := readTime_minutes (show seconds / 3600 < 10 ^ 2 by omega)
      (show seconds / 60 % 60 < 10 ^ 2 by omega)
    refine ⟨_, _, ?_, read, rfl, rfl, ?_⟩
    · simp [Offset.isoChars, noFraction, secondsEq, fullMinute]
    · simp only [Reading.hour, Reading.minute, Reading.second, List.getD_cons_zero,
        List.getD_cons_succ, List.getD_nil]
      omega
  · have read := readTime_seconds (show seconds / 3600 < 10 ^ 2 by omega)
      (show seconds / 60 % 60 < 10 ^ 2 by omega) (show seconds % 60 < 10 ^ 2 by omega)
    refine ⟨_, _, ?_, read, rfl, rfl, ?_⟩
    · simp [Offset.isoChars, noFraction, secondsEq, fullMinute]
    · simp only [Reading.hour, Reading.minute, Reading.second, List.getD_cons_zero,
        List.getD_cons_succ]
      omega

theorem Reading.offset?_eq {reading : Reading} {offset : Offset} (whole : offset.IsWhole)
    (seconds : reading.hour * 3600 + reading.minute * 60 + reading.second =
      offset.micros.natAbs / 1000000) (noFraction : reading.micros = 0) :
    reading.offset? (decide (offset.micros < 0)) = some offset := by
  obtain ⟨micros, bounded⟩ := offset
  obtain ⟨count, rfl⟩ : (1000000 : Int) ∣ micros := whole
  have countEq : (1000000 * count).natAbs / 1000000 = count.natAbs := by omega
  rw [countEq] at seconds
  simp only [offset?, seconds, noFraction]
  split
  next zero =>
    obtain rfl : count = 0 := by omega
    rfl
  next nonzero =>
    have signed : (if decide (1000000 * count < 0) = true then
          -((count.natAbs : Int) * 1000000 + (0 : Nat))
        else (count.natAbs : Int) * 1000000 + (0 : Nat)) = 1000000 * count := by
      by_cases negative : 1000000 * count < 0
      · rw [if_pos (decide_eq_true negative)]
        omega
      · rw [if_neg (mt of_decide_eq_true negative)]
        omega
    rw [signed]
    exact dif_pos bounded

theorem isDigit_of_mem {width n : Nat} {c : Char} (member : c ∈ paddedDecimal width n) :
    c.isDigit = true :=
  (isNumber_paddedDecimal width n).2 c member

theorem of_mem_optional {omitted : Prop} [Decidable omitted] {c mark : Char} {width n : Nat}
    (member : c ∈ if omitted then [] else mark :: paddedDecimal width n) :
    c.isDigit = true ∨ c = mark := by
  split at member
  · simp at member
  · rcases List.mem_cons.mp member with same | digit
    · exact .inr same
    · exact .inl (isDigit_of_mem digit)

theorem of_mem_clock {clock : Clock} {c : Char} (member : c ∈ clock.isoChars) :
    c.isDigit = true ∨ c ∈ [':', '.'] := by
  simp only [Clock.isoChars, Clock.secondsChars, List.mem_append, List.mem_cons] at member
  rcases member with ((hour | rfl | minute) | rfl | second) | fraction
  · exact .inl (isDigit_of_mem hour)
  · exact .inr (by decide)
  · exact .inl (isDigit_of_mem minute)
  · exact .inr (by decide)
  · exact .inl (isDigit_of_mem second)
  · exact (of_mem_optional fraction).imp id fun point => by simp [point]

theorem of_mem_offset {offset : Offset} {c : Char} (member : c ∈ offset.isoChars) :
    c.isDigit = true ∨ c ∈ ['+', '-', ':', '.'] := by
  simp only [Offset.isoChars, List.mem_append, List.mem_cons] at member
  rcases member with (((sign | hour) | rfl | minute) | second) | fraction
  · exact .inr (by split at sign <;> simp [sign])
  · exact .inl (isDigit_of_mem hour)
  · exact .inr (by decide)
  · exact .inl (isDigit_of_mem minute)
  · exact (of_mem_optional second).imp id fun colon => by simp [colon]
  · exact (of_mem_optional fraction).imp id fun point => by simp [point]

theorem readClock_eq (clock : Clock) {offset : Option Offset}
    (whole : ∀ known ∈ offset, known.IsWhole) :
    readClock (clock.isoChars ++ (offset.map Offset.isoChars).getD []) = some (clock, offset) := by
  have unmarked : ∀ c ∈ clock.isoChars, (!isZoneMark c) = true := by
    intro c member
    rcases of_mem_clock member with digit | mark
    · simp [isZoneMark, ne_of_isDigit digit]
    · simp only [List.mem_cons, List.not_mem_nil, or_false] at mark
      rcases mark with rfl | rfl <;> rfl
  have clockKnown : Reading.clock? ⟨[clock.hour, clock.minute, clock.second], clock.micro, true⟩ =
      some clock := dif_pos clock.isClock
  rw [readClock, List.takeWhile_append_of_pos unmarked, List.dropWhile_append_of_pos unmarked]
  cases offset with
  | none => simp [readTime_clock, clockKnown]
  | some offset =>
      obtain ⟨zone, reading, shape, read, isWhole, noFraction, seconds⟩ :=
        exists_zone (whole offset rfl)
      have known := Reading.offset?_eq (whole offset rfl) seconds noFraction
      by_cases negative : offset.micros < 0 <;>
        simp_all [isZoneMark, readTime_clock]

theorem readDay_isoChars (date : Date) (length : Nat) (rest : List Char) :
    readDay length (date.isoChars ++ rest) = some date := by
  obtain ⟨yearFits, monthFits, dayFits⟩ := date.fits
  have month := isNumber_paddedDecimal 2 date.month
  obtain ⟨c, later, shape, digit, -⟩ := exists_of_isNumber month
  have noWeek : c ≠ 'W' := ne_of_isDigit digit (by decide)
  have monthRead := takeNumber_append month ('-' :: (paddedDecimal 2 date.day ++ rest))
  rw [shape, List.cons_append, ← shape, valueOf_paddedDecimal monthFits] at monthRead
  have known : Date.ofFields? date.year date.month date.day = some date :=
    Date.ofFields?_eq_some date.isDay
  simp [readDay, Date.isoChars, takeNumber_append (isNumber_paddedDecimal 4 date.year),
    valueOf_paddedDecimal yearFits, shape, noWeek, monthRead, dropHyphen, dropChar,
    takeNumber_append (isNumber_paddedDecimal 2 date.day), valueOf_paddedDecimal dayFits, known]

theorem length_isoChars (date : Date) : date.isoChars.length = 10 := by
  simp [Date.isoChars, (isNumber_paddedDecimal 4 date.year).1,
    (isNumber_paddedDecimal 2 date.month).1, (isNumber_paddedDecimal 2 date.day).1]

theorem dayLength_isoChars (date : Date) (rest : List Char) :
    dayLength (date.isoChars ++ rest) = 10 := by
  have month := isNumber_paddedDecimal 2 date.month
  obtain ⟨a, b, c, d, year⟩ := List.length_eq_four.mp (isNumber_paddedDecimal 4 date.year).1
  obtain ⟨m, n, monthShape⟩ := List.length_eq_two.mp month.1
  have noWeek : m ≠ 'W' := ne_of_isDigit (month.2 m (by simp [monthShape])) (by decide)
  have notShort : (date.isoChars ++ rest).length ≠ 7 := by
    rw [List.length_append, length_isoChars]
    omega
  rw [dayLength, if_neg notShort]
  simp [Date.isoChars, year, monthShape, noWeek]

end Iso

namespace Moment

open Coercion

variable {time : Moment} {separator : Char}

/-- Every offset of a moment, if it has one, is of whole seconds. -/
def HasWholeOffset (time : Moment) : Prop :=
  ∀ offset ∈ time.offset, offset.IsWhole

theorem ofIso?_isoChars (time : Moment) (separator : Char) (whole : time.HasWholeOffset) :
    ofIso? (String.ofList (time.isoChars separator)) = some time := by
  have long : ¬ (time.isoChars separator).length < 7 := by
    simp only [isoChars, List.length_append, Iso.length_isoChars]
    omega
  have behind (rest : List Char) : (time.date.isoChars ++ rest).drop 10 = rest :=
    List.drop_left' (Iso.length_isoChars _)
  rw [ofIso?, String.toList_ofList, if_neg long]
  simp only [isoChars, List.append_assoc, List.cons_append, Iso.dayLength_isoChars,
    Iso.readDay_isoChars, behind, Iso.readClock_eq time.clock whole]
  rfl

/-- The texts of a moment: with its offset if it has one, and with a `Z` for universal time. -/
inductive Spelling (time : Moment) : List Char → Prop
  | plain {separator : Char} (known : separator ∈ ['T', ' ']) :
      Spelling time (time.isoChars separator)
  | zulu {separator : Char} (known : separator ∈ ['T', ' '])
      (universal : time.offset = some .utc) :
      Spelling time (time.date.isoChars ++ separator :: time.clock.isoChars ++ ['Z'])

theorem notMem_isoChars {c : Char} (noDigit : c.isDigit = false)
    (noMark : c ∉ ['-', 'W', separator, '+', ':', '.']) : c ∉ time.isoChars separator := by
  simp only [List.mem_cons, List.not_mem_nil, or_false, not_or] at noMark
  obtain ⟨noHyphen, noWeek, noSeparator, noPlus, noColon, noPoint⟩ := noMark
  simp only [isoChars, List.mem_append, List.mem_cons, not_or]
  refine ⟨⟨time.date.writesDay_isoChars.notMem noDigit ⟨noHyphen, noWeek⟩, noSeparator, ?_⟩, ?_⟩
  · intro inside
    rcases Iso.of_mem_clock inside with digit | mark
    · simp [noDigit] at digit
    · simp_all
  · intro inside
    cases offset : time.offset with
    | none => simp [offset] at inside
    | some known =>
        rw [offset] at inside
        rcases Iso.of_mem_offset inside with digit | mark
        · simp [noDigit] at digit
        · simp_all

theorem replaceWord_append_singleton {c : Char} {cs : List Char} (absent : c ∉ cs)
    (replacement : List Char) : replaceWord [c] replacement (cs ++ [c]) = cs ++ replacement := by
  induction cs with
  | nil => simp [replaceWord]
  | cons d rest inductionHypothesis =>
      obtain ⟨differ, later⟩ : c ≠ d ∧ c ∉ rest := by simpa using absent
      rw [List.cons_append, replaceWord, if_neg (by simp [differ]), inductionHypothesis later,
        List.cons_append]

namespace Spelling

variable {cs : List Char}

theorem withoutZulu_ofList (cs : List Char) :
    withoutZulu (String.ofList cs) = String.ofList (replaceWord ['Z'] Offset.utc.isoChars cs) := by
  have zero : "+00:00".toList = Offset.utc.isoChars := by decide +kernel
  rw [withoutZulu, zero, String.toList_ofList]

/-- With an offset of zero in place of a `Z`, a text of a moment is its plain text. -/
theorem withoutZulu_eq (spelling : Spelling time cs) :
    ∃ separator, withoutZulu (String.ofList cs) = String.ofList (time.isoChars separator) := by
  have noZulu {separator : Char} (known : separator ∈ ['T', ' ']) :
      'Z' ∉ time.isoChars separator := by
    simp only [List.mem_cons, List.not_mem_nil, or_false] at known
    rcases known with rfl | rfl <;> exact notMem_isoChars (by decide) (by decide)
  cases spelling with
  | @plain separator known =>
      refine ⟨separator, ?_⟩
      rw [withoutZulu_ofList, replaceWord_of_notMem (noZulu known)]
  | @zulu separator known universal =>
      have absent : 'Z' ∉ time.date.isoChars ++ separator :: time.clock.isoChars := by
        intro inside
        exact noZulu known (List.mem_append_left _ inside)
      refine ⟨separator, ?_⟩
      rw [withoutZulu_ofList, replaceWord_append_singleton absent, isoChars, universal,
        Option.map_some, Option.getD_some]

theorem parts (spelling : Spelling time cs) :
    ∃ separator behind, cs = time.date.isoChars ++ separator :: behind ∧ separator ∈ ['T', ' '] ∧
      behind ≠ [] ∧ ∀ c ∈ behind, isBlank c = false := by
  have given {marks : List Char} {c : Char} (marksGiven : marks.all (!isBlank ·) = true)
      (member : c.isDigit = true ∨ c ∈ marks) : isBlank c = false := by
    rcases member with digit | mark
    · exact isBlank_of_isDigit digit
    · simpa using List.all_eq_true.mp marksGiven c mark
  have clockGiven {c : Char} (member : c ∈ time.clock.isoChars) : isBlank c = false :=
    given (by decide) (Iso.of_mem_clock member)
  have nonempty : time.clock.isoChars ≠ [] := by
    simp [Clock.isoChars, Clock.secondsChars]
  cases spelling with
  | @plain separator known =>
      refine ⟨separator, time.clock.isoChars ++ (time.offset.map Offset.isoChars).getD [],
        by simp [isoChars], known, by simp [nonempty], ?_⟩
      intro c member
      rcases List.mem_append.mp member with inClock | inZone
      · exact clockGiven inClock
      · cases offset : time.offset with
        | none => simp [offset] at inZone
        | some offset =>
            simp only [offset, Option.map_some, Option.getD_some] at inZone
            exact given (by decide) (Iso.of_mem_offset inZone)
  | @zulu separator known universal =>
      refine ⟨separator, time.clock.isoChars ++ ['Z'], by simp, known, by simp, ?_⟩
      intro c member
      rcases List.mem_append.mp member with inClock | inZone
      · exact clockGiven inClock
      · rw [List.mem_singleton.mp inZone]
        decide

theorem hasTime_eq (spelling : Spelling time cs) : hasTime (String.ofList cs) = true := by
  obtain ⟨separator, behind, rfl, known, -⟩ := spelling.parts
  simp only [List.mem_cons, List.not_mem_nil, or_false] at known
  rcases known with rfl | rfl <;> simp [hasTime]

theorem ends (spelling : Spelling time cs) :
    (∀ c ∈ cs.head?, isBlank c = false) ∧ ∀ c ∈ cs.getLast?, isBlank c = false := by
  obtain ⟨separator, behind, rfl, -, nonempty, given⟩ := spelling.parts
  obtain ⟨first, later, shape, digit, -⟩ :=
    Iso.exists_of_isNumber (isNumber_paddedDecimal 4 time.date.year)
  constructor
  · simpa [Date.isoChars, shape] using isBlank_of_isDigit digit
  · intro c last
    rw [List.getLast?_append_cons, List.getLast?_cons_of_ne_nil nonempty] at last
    exact given c (List.mem_of_mem_getLast? last)

theorem ofIso?_eq (spelling : Spelling time cs) (whole : time.HasWholeOffset) :
    Moment.ofIso? (withoutZulu (String.ofList cs)) = some time := by
  obtain ⟨separator, plain⟩ := spelling.withoutZulu_eq
  rw [plain, ofIso?_isoChars time separator whole]

theorem readMoment?_eq (spelling : Spelling time cs) (whole : time.HasWholeOffset) :
    readMoment? (String.ofList cs) = some time := by
  rw [readMoment?, if_neg (by simp [spelling.hasTime_eq]), spelling.ofIso?_eq whole]

end Spelling

end Moment

end GridQuery
