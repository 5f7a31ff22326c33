import GridQuery.Proofs.CalendarOrder
import Mathlib.Algebra.BigOperators.Intervals
import Mathlib.Algebra.Order.BigOperators.Group.Finset

/-!
The instant that a moment denotes.  Days are numbered one after another, so a
wall clock counts microseconds, and its offset is how far it is ahead of
universal time.  Two moments that denote one instant show the same wall clock
exactly if their offsets are the same.
-/

namespace GridQuery

open Finset

def daysBeforeYear (year : ℕ) : ℕ :=
  ∑ earlier ∈ Ico 1 year, yearLength earlier

def daysBeforeMonth (year month : ℕ) : ℕ :=
  ∑ earlier ∈ Ico 1 month, monthLength year earlier

theorem daysBeforeYear_succ {year : ℕ} (first : 1 ≤ year) :
    daysBeforeYear (year + 1) = daysBeforeYear year + yearLength year :=
  sum_Ico_succ_top first _

theorem daysBeforeMonth_succ (year : ℕ) {month : ℕ} (first : 1 ≤ month) :
    daysBeforeMonth year (month + 1) = daysBeforeMonth year month + monthLength year month :=
  sum_Ico_succ_top first _

theorem daysBeforeYear_mono : Monotone daysBeforeYear :=
  fun _ _ earlier => sum_le_sum_of_subset (Ico_subset_Ico_right earlier)

theorem daysBeforeMonth_mono (year : ℕ) : Monotone (daysBeforeMonth year) :=
  fun _ _ earlier => sum_le_sum_of_subset (Ico_subset_Ico_right earlier)

theorem daysBeforeMonth_thirteen (year : ℕ) : daysBeforeMonth year 13 = yearLength year := by
  cases leap : isLeap year <;>
    simp [daysBeforeMonth, yearLength, monthLength, leap, sum_Ico_succ_top]

namespace Date

/-- The number of a day, counted from the first day of the calendar. -/
def ordinal (date : Date) : ℕ :=
  daysBeforeYear date.year + daysBeforeMonth date.year date.month + date.day

theorem one_le_month (date : Date) : 1 ≤ date.month := date.isDay.2.1.1

theorem daysBeforeMonth_lt (date : Date) :
    daysBeforeMonth date.year date.month < daysBeforeMonth date.year date.month + date.day ∧
      daysBeforeMonth date.year date.month + date.day ≤
        daysBeforeMonth date.year (date.month + 1) := by
  obtain ⟨-, -, dayLow, dayHigh⟩ := date.isDay
  rw [daysBeforeMonth_succ _ date.one_le_month]
  omega

theorem ordinal_le_nextYear (date : Date) :
    daysBeforeYear date.year < date.ordinal ∧
      date.ordinal ≤ daysBeforeYear (date.year + 1) := by
  obtain ⟨⟨yearLow, -⟩, ⟨-, monthHigh⟩, -⟩ := date.isDay
  obtain ⟨afterStart, beforeEnd⟩ := date.daysBeforeMonth_lt
  have withinYear := daysBeforeMonth_mono date.year (show date.month + 1 ≤ 13 by omega)
  rw [daysBeforeMonth_thirteen] at withinYear
  rw [daysBeforeYear_succ yearLow, ordinal]
  omega

theorem ordinal_strictMono : StrictMono ordinal := by
  intro date other earlier
  rcases (lt_iff date other).mp earlier with year | ⟨year, month | ⟨month, day⟩⟩
  · have yearsBefore := daysBeforeYear_mono (show date.year + 1 ≤ other.year from year)
    have atMost := date.ordinal_le_nextYear.2
    have more := other.ordinal_le_nextYear.1
    omega
  · have monthsBefore := daysBeforeMonth_mono date.year
      (show date.month + 1 ≤ other.month from month)
    have atMost := date.daysBeforeMonth_lt.2
    have more := other.daysBeforeMonth_lt.1
    rw [← year] at more
    rw [ordinal, ordinal, ← year]
    omega
  · rw [ordinal, ordinal, ← year, ← month]
    omega

end Date

namespace Clock

def micros (clock : Clock) : ℕ :=
  ((clock.hour * 60 + clock.minute) * 60 + clock.second) * 1000000 + clock.micro

theorem micros_lt (clock : Clock) : clock.micros < dayMicros := by
  obtain ⟨hour, minute, second, micro⟩ := clock.isClock
  rw [micros, dayMicros]
  omega

theorem micros_injective : Function.Injective micros := by
  intro clock other same
  have ⟨_, minute, second, micro⟩ := clock.isClock
  have ⟨_, otherMinute, otherSecond, otherMicro⟩ := other.isClock
  rw [micros, micros] at same
  obtain ⟨sameHour, sameMinute, sameSecond, sameMicro⟩ : clock.hour = other.hour ∧
      clock.minute = other.minute ∧ clock.second = other.second ∧ clock.micro = other.micro := by
    omega
  cases clock
  cases other
  simp_all

end Clock

namespace Moment

def zone (time : Moment) : Offset :=
  time.offset.getD .utc

/-- The microseconds that the calendar and the clock of a moment show. -/
def wallMicros (time : Moment) : ℕ :=
  time.date.ordinal * dayMicros + time.clock.micros

/-- The microseconds of universal time that a moment denotes. -/
def instant (time : Moment) : ℤ :=
  time.wallMicros - time.zone.micros

theorem wall_eq_iff {time other : Moment} :
    time.wall = other.wall ↔ time.date = other.date ∧ time.clock = other.clock := by
  simp [wall]

theorem wallMicros_eq_iff {time other : Moment} :
    time.wallMicros = other.wallMicros ↔ time.wall = other.wall := by
  have within := time.clock.micros_lt
  have otherWithin := other.clock.micros_lt
  rw [wall_eq_iff]
  constructor
  · intro same
    rw [wallMicros, wallMicros, dayMicros] at same
    rw [dayMicros] at within otherWithin
    have sameDay : time.date.ordinal = other.date.ordinal := by omega
    have sameClock : time.clock.micros = other.clock.micros := by omega
    exact ⟨Date.ordinal_strictMono.injective sameDay, Clock.micros_injective sameClock⟩
  · rintro ⟨day, clock⟩
    rw [wallMicros, wallMicros, day, clock]

/-- Moments of one instant show the same wall clock exactly if their offsets are the same. -/
theorem wall_eq_iff_of_instant {time other : Moment} (same : time.instant = other.instant) :
    time.wall = other.wall ↔ time.zone = other.zone := by
  have sameZone : time.zone = other.zone ↔ time.zone.micros = other.zone.micros := by
    cases time.zone
    cases other.zone
    simp
  rw [← wallMicros_eq_iff, sameZone]
  rw [instant, instant] at same
  omega

end Moment

end GridQuery
