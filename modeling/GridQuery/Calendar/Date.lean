/-!
Days of the proleptic Gregorian calendar, from 0001-01-01 to 9999-12-31.  A
`Date` is a proper date by construction; `Date.next?` steps to the following
day and fails on the last one only.
-/

namespace GridQuery

/-- A leap year has a 29th of February. -/
def isLeap (year : Nat) : Bool :=
  year % 4 == 0 && (year % 100 != 0 || year % 400 == 0)

def monthLength (year month : Nat) : Nat :=
  match month with
  | 2 => if isLeap year then 29 else 28
  | 4 | 6 | 9 | 11 => 30
  | _ => 31

def yearLength (year : Nat) : Nat :=
  if isLeap year then 366 else 365

def IsDay (year month day : Nat) : Prop :=
  (1 ≤ year ∧ year ≤ 9999) ∧ (1 ≤ month ∧ month ≤ 12) ∧ 1 ≤ day ∧ day ≤ monthLength year month

instance (year month day : Nat) : Decidable (IsDay year month day) := by
  unfold IsDay
  infer_instance

structure Date where
  year : Nat
  month : Nat
  day : Nat
  isDay : IsDay year month day
  deriving DecidableEq, Repr

namespace Date

def ofFields? (year month day : Nat) : Option Date :=
  if isDay : IsDay year month day then some ⟨year, month, day, isDay⟩ else none

def last : Date := ⟨9999, 12, 31, by decide⟩

/-- The following day; the last day of the calendar has none. -/
def next? (date : Date) : Option Date :=
  if date.day < monthLength date.year date.month then
    ofFields? date.year date.month (date.day + 1)
  else if date.month < 12 then ofFields? date.year (date.month + 1) 1
  else ofFields? (date.year + 1) 1 1

/-- The month and the day of the month, for a day counted from the start of a year. -/
def ofYearDay (year : Nat) : (months : List Nat) → (day : Nat) → Option Date
  | [], _ => none
  | month :: later, day =>
      if day ≤ monthLength year month then ofFields? year month day
      else ofYearDay year later (day - monthLength year month)

/-- The day of a year, counted from one; days beside the year fall into its neighbours. -/
def ofYearDay? (year : Nat) (day : Int) : Option Date :=
  let months := (List.range 12).map (· + 1)
  if day < 1 then ofYearDay (year - 1) months (day + yearLength (year - 1)).toNat
  else if (yearLength year : Int) < day then
    ofYearDay (year + 1) months (day - yearLength year).toNat
  else ofYearDay year months day.toNat

def firstWeekday (year : Nat) : Nat :=
  let before := year - 1
  (before * 365 + before / 4 - before / 100 + before / 400) % 7

/-- A long year has a 53rd week: it begins on a Thursday, or on a Wednesday in a leap year. -/
def isLongYear (year : Nat) : Bool :=
  firstWeekday year == 3 || (firstWeekday year == 2 && isLeap year)

/-- The day of a week, Monday being 1; the first week of a year is the one that holds its
first Thursday. -/
def ofWeek? (year week weekday : Nat) : Option Date :=
  let weeks := if isLongYear year then 53 else 52
  if 1 ≤ year ∧ year ≤ 9999 ∧ 1 ≤ week ∧ week ≤ weeks ∧ 1 ≤ weekday ∧ weekday ≤ 7 then
    let lead := firstWeekday year
    let monday : Int := 1 - lead + if 3 < lead then 7 else 0
    ofYearDay? year (monday + (week - 1) * 7 + (weekday - 1))
  else none

theorem ofFields?_eq_some {year month day : Nat} (isDay : IsDay year month day) :
    ofFields? year month day = some ⟨year, month, day, isDay⟩ := by
  simp [ofFields?, isDay]

theorem monthLength_pos (year month : Nat) : 1 ≤ monthLength year month := by
  unfold monthLength
  split <;> first | omega | (split <;> omega)

theorem next?_eq_none_iff (date : Date) :
    date.next? = none ↔ date.year = 9999 ∧ date.month = 12 ∧ date.day = 31 := by
  obtain ⟨year, month, day, isDay⟩ := date
  have ⟨⟨yearLow, yearHigh⟩, ⟨monthLow, monthHigh⟩, dayLow, dayHigh⟩ := isDay
  have nextMonth := monthLength_pos year (month + 1)
  simp only [next?]
  split
  · rename_i inMonth
    have : IsDay year month (day + 1) :=
      ⟨⟨yearLow, yearHigh⟩, ⟨monthLow, monthHigh⟩, by omega, inMonth⟩
    simp only [ofFields?_eq_some this, reduceCtorEq, false_iff]
    rintro ⟨rfl, rfl, rfl⟩
    simp [monthLength] at inMonth
  · split
    · have : IsDay year (month + 1) 1 :=
        ⟨⟨yearLow, yearHigh⟩, ⟨by omega, by omega⟩, by omega, nextMonth⟩
      simp only [ofFields?_eq_some this, reduceCtorEq, false_iff]
      omega
    · have december : month = 12 := by omega
      subst december
      have length : monthLength year 12 = 31 := rfl
      by_cases final : year = 9999
      · subst final
        simp only [ofFields?, IsDay, true_and]
        simp
        omega
      · have : IsDay (year + 1) 1 1 := ⟨by omega, by omega, by omega, monthLength_pos _ _⟩
        simp [ofFields?_eq_some this, final]

example : (ofWeek? 2026 1 1).map (fun d => (d.year, d.month, d.day)) = some (2025, 12, 29) := by
  decide

end Date

end GridQuery
