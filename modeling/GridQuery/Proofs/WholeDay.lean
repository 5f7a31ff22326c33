import GridQuery.Proofs.CalendarOrder
import GridQuery.Proofs.Overrun
import GridQuery.Sample.Schema

/-!
Whole days on columns of moments.  A day, or a text of one, means the moments
from its midnight up to the next one, by universal time, in every mode that
knows days; on the last day of the calendar these modes fail, since it has no
next midnight.
-/

namespace GridQuery

open Text Coercion

/-- A value that stands for a whole day: the day itself, or a text of it among blanks. -/
inductive Value.WritesDay : Value → Date → Prop
  | day (date : Date) : WritesDay (.date date) date
  | text {s : String} {cs : List Char} {date : Date} (stripped : strip s = String.ofList cs)
      (writes : Iso.WritesDay cs date) : WritesDay (.str s) date

namespace Value.WritesDay

variable {value : Value} {day : Date}

theorem exists_givenText? (writes : value.WritesDay day) :
    ∃ cs, givenText? value = some (String.ofList cs) ∧ Iso.WritesDay cs day := by
  cases writes with
  | day => exact ⟨day.isoChars, congrArg some day.strip_isoText, day.writesDay_isoChars⟩
  | @text s cs _ stripped writes =>
      refine ⟨cs, ?_, writes⟩
      rw [givenText?_str, stripped]

theorem toDate_eq (writes : value.WritesDay day) (label : String) :
    toDate label value = .ok day := by
  obtain ⟨cs, given, readable⟩ := writes.exists_givenText?
  cases writes with
  | day => rfl
  | text stripped =>
      simp only [toDate, given, Value.written, bind, Except.bind, readable.hasTime_eq,
        readable.ofIso?_eq, Bool.false_eq_true, if_false]

theorem toMoment_eq (writes : value.WritesDay day) (label : String) :
    toMoment label value = .ok (.startOf day) := by
  obtain ⟨cs, given, readable⟩ := writes.exists_givenText?
  have universal : Moment.assumeUtc ⟨day, .midnight, none⟩ = .startOf day := rfl
  cases writes <;>
    simp only [toMoment, given, Value.written, bind, Except.bind, readable.readMoment?_eq,
      universal]

theorem namesDay_eq (writes : value.WritesDay day) : namesDay value = true := by
  cases writes with
  | day => rfl
  | @text s cs _ stripped readable =>
      have nonempty : (String.ofList cs).isEmpty = false := by
        by_contra empty
        rw [Bool.not_eq_false, String.isEmpty_iff, String.ofList_eq_empty_iff] at empty
        have length := readable.length
        simp [empty] at length
      simp [namesDay, stripped, nonempty, readable.hasTime_eq, readable.ofIso?_eq]

end Value.WritesDay

namespace Filter

open MatchMode

/-- The condition on a column of moments for its relation to a day, which ends where the next one
begins. -/
def momentsBy (field : Field) (day next : Date) : DayRelation → Condition
  | .on => .span field false (.moment (.startOf day)) (.moment (.startOf next))
  | .notOn => .span field true (.moment (.startOf day)) (.moment (.startOf next))
  | .before => .compare field .lt (.moment (.startOf day))
  | .after => .compare field .ge (.moment (.startOf next))

/-- The modes that ask for a relation to a day, each with what it takes for a value of that day. -/
def dayRequests (value : Value) : DayRelation → List (MatchMode × Value)
  | .on => [(.equals, value), (.dateIs, value), (.between, .list [value, value]),
      (.between, .tuple [value, value])]
  | .notOn => [(.notEquals, value), (.dateIsNot, value)]
  | .before => [(.dateBefore, value)]
  | .after => [(.dateAfter, value)]

def momentsBy? (field : Field) (day : Date) (relation : DayRelation) : Outcome Condition :=
  match day.next? with
  | some next => .ok (momentsBy field day next relation)
  | none => giveUp .pastLastDay

section

variable {field : Field} {value : Value} {day : Date}

theorem dayAfter_startOf (day : Date) :
    dayAfter (.startOf day) = match day.next? with
      | some next => .ok (.startOf next)
      | none => giveUp .pastLastDay := by
  unfold dayAfter Moment.nextDay? Moment.startOf
  cases day.next? <;> rfl

theorem daySpan_startOf (field : Field) (negated : Bool) (day : Date) :
    daySpan field negated (.startOf day) =
      momentsBy? field day (if negated then .notOn else .on) := by
  unfold daySpan momentsBy?
  rw [dayAfter_startOf]
  cases day.next? <;> cases negated <;> rfl

theorem coerce_startOf (moments : field.column.kind = .moment) (writes : value.WritesDay day) :
    coerce field.column value = .ok (.moment (.startOf day)) := by
  rw [coerce, moments]
  dsimp only
  rw [writes.toMoment_eq]
  rfl

theorem byDay_of_moments (moments : field.column.kind = .moment)
    (reads : toDate field.column.label value = .ok day) (relation : DayRelation) :
    byDay field relation value = momentsBy? field day relation := by
  unfold byDay momentsBy?
  rw [reads, moments]
  simp only [bind, Except.bind, dayAfter_startOf]
  cases day.next? <;> cases relation <;> rfl

theorem equal_of_day (moments : field.column.kind = .moment) (writes : value.WritesDay day)
    (negated : Bool) :
    equal field negated value = momentsBy? field day (if negated then .notOn else .on) := by
  have coerced := coerce_startOf moments writes
  have read : scalar field value = .ok (.moment (.startOf day)) := by
    cases writes <;> exact coerced
  rw [equal, read, ← daySpan_startOf]
  exact if_pos (by simp [holdsMoments, moments, writes.namesDay_eq])

theorem range_of_day (moments : field.column.kind = .moment) (writes : value.WritesDay day) :
    range field value value = some <$> momentsBy? field day .on := by
  have bound : bound? field value = .ok (some (.moment (.startOf day))) :=
    bound?_eq_some_iff.mpr ⟨isGiven_of_namesDay writes.namesDay_eq, coerce_startOf moments writes⟩
  have whole : (holdsMoments field && namesDay value) = true := by
    simp [holdsMoments, moments, writes.namesDay_eq]
  simp only [range, bound, bind, Except.bind, whole, if_true, dayAfter_startOf, momentsBy?]
  cases day.next? <;> rfl

theorem build_dayRequest (moments : field.column.kind = .moment) (writes : value.WritesDay day)
    {relation : DayRelation} {request : MatchMode × Value}
    (asked : request ∈ dayRequests value relation) :
    build field request.1 request.2 = some <$> momentsBy? field day relation := by
  have byDay := byDay_of_moments moments (writes.toDate_eq field.column.label)
  cases relation with
  | on =>
      simp only [dayRequests, List.mem_cons, List.not_mem_nil, or_false] at asked
      rcases asked with rfl | rfl | rfl | rfl
      · exact congrArg (some <$> ·) (equal_of_day moments writes false)
      · exact congrArg (some <$> ·) (byDay .on)
      · exact range_of_day moments writes
      · exact range_of_day moments writes
  | notOn =>
      simp only [dayRequests, List.mem_cons, List.not_mem_nil, or_false] at asked
      rcases asked with rfl | rfl
      · exact congrArg (some <$> ·) (equal_of_day moments writes true)
      · exact congrArg (some <$> ·) (byDay .notOn)
  | before =>
      obtain rfl : request = (.dateBefore, value) := by simpa [dayRequests] using asked
      exact congrArg (some <$> ·) (byDay .before)
  | after =>
      obtain rfl : request = (.dateAfter, value) := by simpa [dayRequests] using asked
      exact congrArg (some <$> ·) (byDay .after)

end

/-- On a column of moments every mode that takes a whole day puts the same bounds on it, the
midnight of the day and that of the next one; for the last day of the calendar all of them fail. -/
theorem wholeDay_agrees (path : FieldPath) {value : Value} {day : Date}
    (moments : path.field.column.kind = .moment) (writes : value.WritesDay day) :
    (day ≠ .last → ∃ next, day ⋖ next ∧
      ∀ relation, ∀ request ∈ dayRequests value relation,
        compile path request.1 request.2 =
          .ok (some (throughHops path.hops (momentsBy path.field day next relation)))) ∧
      (day = .last → ∀ relation, ∀ request ∈ dayRequests value relation,
        compile path request.1 request.2 = giveUp .pastLastDay) := by
  constructor
  · intro notLast
    obtain ⟨next, following⟩ := Date.exists_next? notLast
    refine ⟨next, Date.covBy_of_next? following, fun relation request asked => ?_⟩
    rw [compile, build_dayRequest moments writes asked, momentsBy?, following]
    rfl
  · intro last relation request asked
    rw [compile, build_dayRequest moments writes asked, momentsBy?,
      Date.next?_eq_none_iff_last.mpr last]
    rfl

/-- The fourth day of the ninth week of 2026, typed among blanks, is the 26th of February for the
posts of an author. -/
theorem wholeDay_agrees_weekday :
    let path : FieldPath := ⟨"posts.created_at",
      [Sample.referredBy "posts" Sample.author Sample.post "author_id" .many],
      ⟨"posts", Sample.column "created_at" .moment⟩⟩
    let typed : Value := .str "\u3000 2026W094 "
    let first : Value := .moment (.startOf ⟨2026, 2, 26, by decide⟩)
    let after : Value := .moment (.startOf ⟨2026, 2, 27, by decide⟩)
    compile path .equals typed =
        .ok (some (throughHops path.hops (.span path.field false first after))) ∧
      compile path .between (.list [typed, typed]) = compile path .equals typed ∧
      compile path .dateIsNot typed =
        .ok (some (throughHops path.hops (.span path.field true first after))) ∧
      compile path .dateAfter typed =
        .ok (some (throughHops path.hops (.compare path.field .ge after))) ∧
      compile path .equals (.date .last) = giveUp .pastLastDay := by
  intro path typed first after
  let day : Date := ⟨2026, 2, 26, by decide⟩
  have yearDigits : IsNumber 4 ['2', '0', '2', '6'] := ⟨rfl, List.all_eq_true.mp rfl⟩
  have weekDigits : IsNumber 2 ['0', '9'] := ⟨rfl, List.all_eq_true.mp rfl⟩
  have weekdayDigit : IsNumber 1 ['4'] := ⟨rfl, List.all_eq_true.mp rfl⟩
  have writes : typed.WritesDay day :=
    .text (by decide +kernel)
      (.weekday false yearDigits weekDigits weekdayDigit (by decide +kernel))
  obtain ⟨next, follows, agrees⟩ := (wholeDay_agrees path rfl writes).1 (by decide)
  obtain rfl : next = ⟨2026, 2, 27, by decide⟩ :=
    follows.unique_right (Date.covBy_of_next? (by decide))
  have equal := agrees .on (.equals, typed) (by simp [dayRequests])
  have between := agrees .on (.between, .list [typed, typed]) (by simp [dayRequests])
  have dateIsNot := agrees .notOn (.dateIsNot, typed) (by simp [dayRequests])
  have dateAfter := agrees .after (.dateAfter, typed) (by simp [dayRequests])
  have fails := (wholeDay_agrees path rfl (.day .last)).2 rfl
  exact ⟨equal, between.trans equal.symm, dateIsNot, dateAfter,
    fails .on (.equals, .date .last) (by simp [dayRequests])⟩

end Filter

end GridQuery
