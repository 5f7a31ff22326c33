import GridQuery.Proofs.CellOrder
import GridQuery.Proofs.IsoDay
import GridQuery.Store.Parameter
import Mathlib.Data.List.TakeDrop
import Mathlib.Order.Cover

/-!
The order of the calendar.  Days come one after another by year, month and day,
and the following day comes next.  The texts in which the store keeps days and
moments have fields of a fixed width, so comparing the texts is comparing what
they stand for.
-/

namespace GridQuery

open Text

namespace Date

def place (date : Date) : ℕ ×ₗ ℕ ×ₗ ℕ :=
  toLex (date.year, toLex (date.month, date.day))

instance : LinearOrder Date :=
  LinearOrder.lift' place fun date other same => by
    obtain ⟨year, month, day, isDay⟩ := date
    obtain ⟨otherYear, otherMonth, otherDay, otherIsDay⟩ := other
    obtain ⟨rfl, rfl, rfl⟩ : year = otherYear ∧ month = otherMonth ∧ day = otherDay := by
      simpa [place] using same
    rfl

theorem lt_iff (date other : Date) :
    date < other ↔ date.year < other.year ∨ date.year = other.year ∧
      (date.month < other.month ∨ date.month = other.month ∧ date.day < other.day) := by
  change date.place < other.place ↔ _
  simp [place, Prod.Lex.toLex_lt_toLex]

theorem eq_of_ofFields? {year month day : Nat} {date : Date}
    (known : ofFields? year month day = some date) :
    date.year = year ∧ date.month = month ∧ date.day = day := by
  unfold ofFields? at known
  split at known
  · cases known
    exact ⟨rfl, rfl, rfl⟩
  · cases known

theorem lt_next?_iff {date next : Date} (following : date.next? = some next) (other : Date) :
    other < next ↔ other ≤ date := by
  rw [← not_lt, lt_iff, lt_iff]
  obtain ⟨-, ⟨monthLow, monthHigh⟩, dayLow, dayHigh⟩ := other.isDay
  unfold next? at following
  split at following
  · next earlier =>
      obtain ⟨year, month, day⟩ := eq_of_ofFields? following
      omega
  · next monthEnd =>
      -- On the last day of a month, a day of that month is not after it.
      have sameMonth (year : other.year = date.year) (month : other.month = date.month) :
          other.day ≤ date.day := by
        rw [year, month] at dayHigh
        omega
      split at following
      · obtain ⟨year, month, day⟩ := eq_of_ofFields? following
        omega
      · obtain ⟨year, month, day⟩ := eq_of_ofFields? following
        omega

theorem covBy_of_next? {date next : Date} (following : date.next? = some next) : date ⋖ next := by
  refine ⟨(lt_next?_iff following date).mpr le_rfl, fun other after before => ?_⟩
  exact absurd after (not_lt.mpr ((lt_next?_iff following other).mp before))

theorem next?_eq_none_iff_last {date : Date} : date.next? = none ↔ date = .last := by
  rw [next?_eq_none_iff]
  obtain ⟨year, month, day, isDay⟩ := date
  simp [last]

theorem exists_next? {date : Date} (notLast : date ≠ .last) : ∃ next, date.next? = some next :=
  Option.ne_none_iff_exists'.mp (mt next?_eq_none_iff_last.mp notLast)

end Date

namespace Clock

def place (clock : Clock) : ℕ ×ₗ ℕ ×ₗ ℕ ×ₗ ℕ :=
  toLex (clock.hour, toLex (clock.minute, toLex (clock.second, clock.micro)))

instance : LinearOrder Clock :=
  LinearOrder.lift' place fun clock other same => by
    obtain ⟨hour, minute, second, micro, isClock⟩ := clock
    obtain ⟨otherHour, otherMinute, otherSecond, otherMicro, otherIsClock⟩ := other
    obtain ⟨rfl, rfl, rfl, rfl⟩ : hour = otherHour ∧ minute = otherMinute ∧
        second = otherSecond ∧ micro = otherMicro := by
      simpa [place] using same
    rfl

theorem lt_iff (clock other : Clock) :
    clock < other ↔ clock.hour < other.hour ∨ clock.hour = other.hour ∧
      (clock.minute < other.minute ∨ clock.minute = other.minute ∧
        (clock.second < other.second ∨ clock.second = other.second ∧
          clock.micro < other.micro)) := by
  change clock.place < other.place ↔ _
  simp [place, Prod.Lex.toLex_lt_toLex]

theorem midnight_le (clock : Clock) : midnight ≤ clock := by
  rw [← not_lt, lt_iff]
  simp [midnight]

end Clock

/-- The day and the time of day that a moment shows, whatever its offset. -/
def Moment.wall (time : Moment) : Date ×ₗ Clock :=
  toLex (time.date, time.clock)

section Digits

/-- Fields of one width are in the order of their numbers, whatever follows them. -/
theorem paddedDecimal_lt {width m n : Nat} (less : m < n) (fits : n < 10 ^ width)
    (front behind : List ℕ) :
    (paddedDecimal width m).map Char.toNat ++ front <
      (paddedDecimal width n).map Char.toNat ++ behind := by
  induction width generalizing m n front behind with
  | zero => omega
  | succ width inductionHypothesis =>
      simp only [paddedDecimal, List.map_append, List.append_assoc]
      by_cases earlier : m / 10 < n / 10
      · exact inductionHypothesis earlier (by omega) _ _
      · have same : m / 10 = n / 10 := by omega
        have digitLess : (hexDigit (m % 10)).toNat < (hexDigit (n % 10)).toNat := by
          have digits : ∀ first < 10, ∀ second < 10, first < second →
              (hexDigit first).toNat < (hexDigit second).toNat := by decide
          exact digits _ (by omega) _ (by omega) (by omega)
        rw [same]
        exact List.append_left_lt (List.cons_lt_cons_iff.mpr (.inl digitLess))

theorem append_cons_lt {front behind later : List ℕ} {mark : ℕ} (less : behind < later) :
    front ++ mark :: behind < front ++ mark :: later :=
  List.append_left_lt (List.cons_lt_cons_iff.mpr (.inr ⟨rfl, less⟩))

theorem Date.isoChars_lt {date other : Date} (earlier : date < other) (front behind : List ℕ) :
    date.isoChars.map Char.toNat ++ front < other.isoChars.map Char.toNat ++ behind := by
  obtain ⟨yearFits, monthFits, dayFits⟩ := other.fits
  simp only [isoChars, List.map_append, List.map_cons, List.append_assoc, List.cons_append]
  rcases (lt_iff date other).mp earlier with year | ⟨year, month | ⟨month, day⟩⟩
  · exact paddedDecimal_lt year yearFits _ _
  · rw [year]
    apply append_cons_lt
    exact paddedDecimal_lt month monthFits _ _
  · rw [year, month]
    apply append_cons_lt
    apply append_cons_lt
    exact paddedDecimal_lt day dayFits _ _

def Clock.microChars (clock : Clock) : List Char :=
  clock.secondsChars ++ '.' :: paddedDecimal 6 clock.micro

theorem Clock.microChars_lt {clock other : Clock} (earlier : clock < other) :
    clock.microChars.map Char.toNat < other.microChars.map Char.toNat := by
  obtain ⟨hourFits, minuteFits, secondFits, microFits⟩ := other.isClock
  simp only [microChars, secondsChars, List.map_append, List.map_cons, List.append_assoc,
    List.cons_append]
  rcases (lt_iff clock other).mp earlier with
    hour | ⟨hour, minute | ⟨minute, second | ⟨second, micro⟩⟩⟩
  · exact paddedDecimal_lt hour (by omega) _ _
  · rw [hour]
    apply append_cons_lt
    exact paddedDecimal_lt minute (by omega) _ _
  · rw [hour, minute]
    apply append_cons_lt
    apply append_cons_lt
    exact paddedDecimal_lt second (by omega) _ _
  · rw [hour, minute, second]
    apply append_cons_lt
    apply append_cons_lt
    apply append_cons_lt
    simpa using paddedDecimal_lt micro (by omega : other.micro < 10 ^ 6) [] []

end Digits

theorem isSpace_of_isDigit {c : Char} (digit : c.isDigit = true) : Numeral.isSpace c = false := by
  have noBlank : c ≠ ' ' := ne_of_isDigit digit (by decide)
  obtain ⟨low, high⟩ := toNat_of_isDigit digit
  simp [Numeral.isSpace, noBlank]
  omega

namespace Cell

/-- Texts that are in the order of what they stand for are compared as it is. -/
theorem order_text_eq_compare {Item : Type} [LinearOrder Item] {form : Item → String}
    (monotone : StrictMono fun item => (form item).toList.map Char.toNat) (item other : Item) :
    order (.text (form item)) (.text (form other)) = compare item other :=
  (compareLists_compares _ _).inj (monotone.compares.mpr (compare_compares item other))

theorem order_isoText (date other : Date) :
    order (.text date.isoText) (.text other.isoText) = compare date other := by
  apply order_text_eq_compare
  intro date other earlier
  simpa [Date.isoText] using Date.isoChars_lt earlier [] []

theorem order_momentText (time other : Moment) :
    order (.text (Store.Parameter.momentText time)) (.text (Store.Parameter.momentText other)) =
      compare time.wall other.wall := by
  -- The text of a moment is one of its wall clock.
  let form (wall : Date ×ₗ Clock) : String :=
    String.ofList ((ofLex wall).1.isoChars ++ ' ' :: (ofLex wall).2.microChars)
  have formOf (time : Moment) : Store.Parameter.momentText time = form time.wall := by
    simp [Store.Parameter.momentText, form, Moment.wall, Clock.microChars]
  rw [formOf, formOf]
  apply order_text_eq_compare
  intro wall other earlier
  simp only [form, String.toList_ofList, List.map_append, List.map_cons]
  rcases Prod.Lex.lt_iff.mp earlier with day | ⟨day, clock⟩
  · exact Date.isoChars_lt day _ _
  · rw [day]
    exact append_cons_lt (Clock.microChars_lt clock)

theorem numberOf?_eq_none {year later : List Char} (number : IsNumber 4 year)
    (noSpace : ∀ c ∈ ('-' :: later).getLast?, Numeral.isSpace c = false) :
    numberOf? (String.ofList (year ++ '-' :: later)) = none := by
  obtain ⟨c, rest, begins, digit, -⟩ := Iso.exists_of_isNumber number
  have plain : Numeral.plainAscii (year ++ '-' :: later) = year ++ '-' :: later := by
    apply trimWhere_eq_self
    · simpa [begins] using isSpace_of_isDigit digit
    · rwa [List.getLast?_append_of_ne_nil _ (List.cons_ne_nil '-' later)]
  have unsigned : Numeral.takeSign (year ++ '-' :: later) = (false, year ++ '-' :: later) := by
    have noMinus : c ≠ '-' := ne_of_isDigit digit (by decide)
    have noPlus : c ≠ '+' := ne_of_isDigit digit (by decide)
    rw [begins, List.cons_append, Numeral.takeSign] <;> simp [noMinus, noPlus]
  have noInteger : (year ++ '-' :: later).all Char.isDigit = false := by simp
  have stops : Numeral.takeDigits (year ++ '-' :: later) = (year, '-' :: later) := by
    rw [Numeral.takeDigits, List.span_eq_takeWhile_dropWhile,
      List.takeWhile_append_of_pos number.2, List.dropWhile_append_of_pos number.2]
    simp
  simp only [numberOf?, String.toList_ofList, plain, unsigned, noInteger]
  simp [DecimalForm.ofUnsigned?, stops, DecimalForm.exponent?]

theorem read_isoText (date : Date) : (text date.isoText).read .asNumber = text date.isoText := by
  have noNumber : numberOf? date.isoText = none := by
    simp only [Date.isoText, Date.isoChars, List.append_assoc, List.cons_append]
    apply numberOf?_eq_none (isNumber_paddedDecimal 4 date.year)
    have digit := (isDigit_hexDigit (Nat.mod_lt date.day (by omega : 10 > 0))).1
    simpa [paddedDecimal] using isSpace_of_isDigit digit
  rw [read, noNumber, Option.getD_none]

theorem read_momentText (time : Moment) :
    (text (Store.Parameter.momentText time)).read .asNumber =
      text (Store.Parameter.momentText time) := by
  have noNumber : numberOf? (Store.Parameter.momentText time) = none := by
    simp only [Store.Parameter.momentText, Date.isoChars, List.append_assoc, List.cons_append]
    apply numberOf?_eq_none (isNumber_paddedDecimal 4 time.date.year)
    have digit := (isDigit_hexDigit (Nat.mod_lt time.clock.micro (by omega : 10 > 0))).1
    simpa [paddedDecimal, Clock.secondsChars] using isSpace_of_isDigit digit
  rw [read, noNumber, Option.getD_none]

end Cell

end GridQuery
