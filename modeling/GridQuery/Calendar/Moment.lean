import GridQuery.Calendar.Date

/-!
A reading of calendar and clock, to the microsecond, with or without the
offset of its clock from universal time.
-/

namespace GridQuery

def IsClock (hour minute second micro : Nat) : Prop :=
  hour < 24 ∧ minute < 60 ∧ second < 60 ∧ micro < 1000000

instance (hour minute second micro : Nat) : Decidable (IsClock hour minute second micro) := by
  unfold IsClock
  infer_instance

structure Clock where
  hour : Nat
  minute : Nat
  second : Nat
  micro : Nat
  isClock : IsClock hour minute second micro
  deriving DecidableEq, Repr

namespace Clock

def midnight : Clock := ⟨0, 0, 0, 0, by decide⟩

def ofFields? (hour minute second micro : Nat) : Option Clock :=
  if isClock : IsClock hour minute second micro then some ⟨hour, minute, second, micro, isClock⟩
  else none

end Clock

def dayMicros : Nat := 86400000000

/-- How far a clock is ahead of universal time, in microseconds, by less than a day. -/
structure Offset where
  micros : Int
  bounded : micros.natAbs < dayMicros
  deriving DecidableEq, Repr

namespace Offset

def utc : Offset := ⟨0, by decide⟩

def ofMicros? (micros : Int) : Option Offset :=
  if bounded : micros.natAbs < dayMicros then some ⟨micros, bounded⟩ else none

end Offset

structure Moment where
  date : Date
  clock : Clock
  offset : Option Offset
  deriving DecidableEq, Repr

namespace Moment

def startOf (date : Date) : Moment :=
  ⟨date, .midnight, some .utc⟩

/-- A reading without an offset is one of universal time. -/
def assumeUtc (moment : Moment) : Moment :=
  { moment with offset := moment.offset <|> some .utc }

def nextDay? (moment : Moment) : Option Moment :=
  moment.date.next?.map fun date => { moment with date }

end Moment

end GridQuery
