import GridQuery.Calendar.Moment
import GridQuery.Number.Numeral
import GridQuery.Text.Quoted

/-!
The ISO 8601 forms of days and moments.  A day is read from its calendar form
`2026-02-26` or its week form `2026-W09-4`, each also without hyphens; a
moment is a day, one separating character and a time of day, with fractions
of a second and an offset.  Writing uses the one extended calendar form.
-/

namespace GridQuery.Iso

open Text

/-- The number of exactly `count` decimal digits at the front, and the rest. -/
def takeNumber (count : Nat) (cs : List Char) : Option (Nat × List Char) :=
  let digits := cs.take count
  if digits.length = count ∧ digits.all Char.isDigit then
    some (Numeral.valueOf digits, cs.drop count)
  else none

def dropChar (c : Char) : List Char → Option (List Char)
  | [] => none
  | head :: rest => if head = c then some rest else none

def dropHyphen (hyphens : Bool) (cs : List Char) : Option (List Char) :=
  if hyphens then dropChar '-' cs else some cs

/-- The day that the first `length` characters are to write.

In the week form the weekday is missing if the week ends there, and then
Monday is meant; characters behind the last field are not looked at.
-/
def readDay (length : Nat) (cs : List Char) : Option Date := do
  let (year, rest) ← takeNumber 4 cs
  let hyphens := rest.head? == some '-'
  let rest := if hyphens then rest.drop 1 else rest
  match rest with
  | 'W' :: rest =>
      let (week, rest) ← takeNumber 2 rest
      if cs.length - rest.length < length then
        let rest ← dropHyphen hyphens rest
        let (weekday, _) ← takeNumber 1 rest
        Date.ofWeek? year week weekday
      else Date.ofWeek? year week 1
  | rest =>
      let (month, rest) ← takeNumber 2 rest
      let rest ← dropHyphen hyphens rest
      let (day, _) ← takeNumber 2 rest
      Date.ofFields? year month day

structure Reading where
  fields : List Nat
  micros : Nat
  isWhole : Bool

/-- A number is whole unless a character other than NUL follows it. -/
def endsHere : List Char → Bool
  | [] => true
  | c :: _ => c == '\x00'

def readFraction (fields : List Nat) (cs : List Char) : Option Reading := do
  let places := min 6 cs.length
  let (value, rest) ← takeNumber places cs
  some ⟨fields, value * tenTo (6 - places), endsHere (rest.dropWhile Char.isDigit)⟩

/-- Two-digit fields, as many as are left, and a fraction behind them.

The character behind the first field says whether colons separate them; one
last ASCII character may be left over.
-/
def readFields : (left : Nat) → (fields : List Nat) → (colons : Option Bool) → List Char →
    Option Reading
  | 0, fields, _, cs => readFraction fields cs
  | left + 1, fields, colons, cs =>
      match takeNumber 2 cs with
      | none => none
      | some (value, rest) =>
          let fields := fields ++ [value]
          match rest with
          | [] => some ⟨fields, 0, true⟩
          | [c] => if c.toNat < 128 then some ⟨fields, 0, c == '\x00'⟩ else none
          | c :: rest =>
              let colons := colons.getD (c == ':')
              if colons && c == ':' then readFields left fields (some colons) rest
              else if c = '.' ∨ c = ',' then readFraction fields rest
              else if colons then none
              else readFields left fields (some colons) (c :: rest)

def readTime (cs : List Char) : Option Reading :=
  readFields 3 [] none cs

def isZoneMark (c : Char) : Bool :=
  c == '+' || c == '-' || c == 'Z'

namespace Reading

def hour (reading : Reading) : Nat := reading.fields.getD 0 0

def minute (reading : Reading) : Nat := reading.fields.getD 1 0

def second (reading : Reading) : Nat := reading.fields.getD 2 0

def clock? (reading : Reading) : Option Clock :=
  Clock.ofFields? reading.hour reading.minute reading.second reading.micros

/-- The offset; one of less than a second is none at all. -/
def offset? (negative : Bool) (reading : Reading) : Option Offset :=
  let seconds := reading.hour * 3600 + reading.minute * 60 + reading.second
  if seconds = 0 then some .utc
  else
    let micros : Int := seconds * 1000000 + reading.micros
    Offset.ofMicros? (if negative then -micros else micros)

end Reading

def readClock (cs : List Char) : Option (Clock × Option Offset) := do
  let time ← readTime (cs.takeWhile (!isZoneMark ·))
  match cs.dropWhile (!isZoneMark ·) with
  | [] =>
      if time.isWhole then
        let clock ← time.clock?
        some (clock, none)
      else none
  | mark :: zone =>
      let offset ←
        if mark = 'Z' then if endsHere zone then some Offset.utc else none
        else do
          let reading ← readTime zone
          if reading.isWhole then reading.offset? (mark == '-') else none
      let clock ← time.clock?
      some (clock, some offset)

def dayLength (cs : List Char) : Nat :=
  let isDigitAt (i : Nat) : Bool := (cs[i]?).any Char.isDigit
  if cs.length = 7 then 7
  else if cs[4]? = some '-' then
    if cs[5]? = some 'W' then
      if cs[8]? = some '-' then if isDigitAt 10 then 8 else 10 else 8
    else 10
  else if cs[4]? = some 'W' then
    let digits := 7 + ((cs.drop 7).takeWhile Char.isDigit).length
    if digits < 9 then digits else if digits % 2 = 0 then 7 else 8
  else 8

end GridQuery.Iso

namespace GridQuery

open Iso Text

/-- The day that a text of seven, eight or ten bytes writes. -/
def Date.ofIso? (s : String) : Option Date :=
  let size := s.utf8ByteSize
  if size = 7 ∨ size = 8 ∨ size = 10 then readDay size s.toList else none

/-- The moment that a text writes; without a time of day it is midnight. -/
def Moment.ofIso? (s : String) : Option Moment := do
  let cs := s.toList
  if cs.length < 7 then none
  else
    let length := dayLength cs
    let date ← readDay length cs
    match cs.drop length with
    | [] => some ⟨date, .midnight, none⟩
    | _ :: time =>
        let (clock, offset) ← readClock time
        some ⟨date, clock, offset⟩

def paddedDecimal : (width : Nat) → (n : Nat) → List Char
  | 0, _ => []
  | width + 1, n => paddedDecimal width (n / 10) ++ [hexDigit (n % 10)]

namespace Date

def isoChars (date : Date) : List Char :=
  paddedDecimal 4 date.year ++ '-' :: paddedDecimal 2 date.month ++ '-' :: paddedDecimal 2 date.day

def isoText (date : Date) : String :=
  String.ofList date.isoChars

end Date

def Clock.secondsChars (clock : Clock) : List Char :=
  paddedDecimal 2 clock.hour ++ ':' :: paddedDecimal 2 clock.minute ++
    ':' :: paddedDecimal 2 clock.second

def Clock.isoChars (clock : Clock) : List Char :=
  clock.secondsChars ++ if clock.micro = 0 then [] else '.' :: paddedDecimal 6 clock.micro

/-- The form `±HH:MM`, with seconds and microseconds if there are any. -/
def Offset.isoChars (offset : Offset) : List Char :=
  let micros := offset.micros.natAbs
  let seconds := micros / 1000000
  let fraction := micros % 1000000
  (if offset.micros < 0 then '-' else '+') :: paddedDecimal 2 (seconds / 3600) ++
    ':' :: paddedDecimal 2 (seconds / 60 % 60) ++
    (if seconds % 60 = 0 ∧ fraction = 0 then [] else ':' :: paddedDecimal 2 (seconds % 60)) ++
    if fraction = 0 then [] else '.' :: paddedDecimal 6 fraction

namespace Moment

def isoChars (separator : Char) (moment : Moment) : List Char :=
  moment.date.isoChars ++ separator :: moment.clock.isoChars ++
    (moment.offset.map Offset.isoChars).getD []

def isoText (moment : Moment) : String :=
  String.ofList (moment.isoChars 'T')

def spacedText (moment : Moment) : String :=
  String.ofList (moment.isoChars ' ')

end Moment

end GridQuery
