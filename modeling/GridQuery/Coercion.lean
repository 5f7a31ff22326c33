import GridQuery.Calendar.Iso
import GridQuery.Error
import GridQuery.Schema.Basic
import GridQuery.Text.Fold
import GridQuery.Text.Pieces
import GridQuery.Value.Text

/-!
Bringing a requested value to the kind of its column.  Text stands for any
kind: numbers, truth values, identifiers, days and moments are read from what
a client typed.
-/

namespace GridQuery

open Text

/-- The identifier that a text writes in hexadecimal digits.

Hyphens, braces around the digits and the marks of a resource name do not
count; what is left has 32 characters.
-/
def Uuid.ofText? (s : String) : Option Uuid :=
  let unmarked := replaceWord "uuid:".toList [] (replaceWord "urn:".toList [] s.toList)
  let unbraced := trimWhere (fun c => c == '\x7b' || c == '\x7d') unmarked
  let digits := unbraced.filter (· ≠ '-')
  if digits.length = 32 then
    (Integer.ofHexText? digits).bind fun n =>
      if 0 ≤ n then some (BitVec.ofNat 128 n.toNat) else none
  else none

namespace Coercion

def refuse {α : Type} (column : String) (expected : Expectation) : Outcome α :=
  reject (.value column expected)

/-- The text of a value without the blanks around it, empty if the value does not count as given. -/
def givenText? (value : Value) : Option String :=
  (value.orElse (.str "")).text?.map strip

theorem givenText?_str (s : String) : givenText? (.str s) = some (strip s) := by
  rw [givenText?, Value.orElse_empty]
  rfl

def truthWords : List (String × Bool) :=
  [("1", true), ("true", true), ("yes", true), ("y", true), ("on", true),
    ("0", false), ("false", false), ("no", false), ("n", false), ("off", false)]

def toBool (column : String) : Value → Outcome Bool
  | .bool b => .ok b
  | value => do
      let text ← value.textOrEmpty
      match truthWords.lookup (fold (strip text)) with
      | some b => .ok b
      | none => refuse column .boolean

/-- Read a number from the text of a value; a decimal comma is a point. -/
def readNumber {α : Type} (column : String) (read? : String → Option α) (value : Value) :
    Outcome α := do
  let text := strip (← value.text)
  if text.isEmpty then refuse column .number
  else
    match read? (String.ofList (replaceWord [','] ['.'] text.toList)) with
    | some number => .ok number
    | none => refuse column .number

def toInteger (column : String) : Value → Outcome Value
  | .null => .ok .null
  | .bool _ => refuse column .number
  | .int n => .ok (.int n)
  | .float x =>
      match x.truncate? with
      | some n => if x.isIntegral then .ok (.int n) else refuse column .integer
      | none => refuse column .integer
  | value => .int <$> readNumber column Integer.ofText? value

def toReal (column : String) : Value → Outcome Value
  | .null => .ok .null
  | .bool _ => refuse column .number
  | .int n =>
      let x := Double.ofInt n
      if x.isFinite then .ok (.float x) else giveUp .hugeDouble
  | .float x => .ok (.float x)
  | value => .float <$> readNumber column Double.ofText? value

def toNumeric (column : String) : Value → Outcome Value
  | .null => .ok .null
  | .bool _ => refuse column .number
  | .int n => .ok (.decimal (.ofInt n))
  | .decimal d => .ok (.decimal d)
  | value => .decimal <$> readNumber column Decimal.ofText? value

def toUuid (column : String) : Value → Outcome Uuid
  | .uuid id => .ok id
  | value =>
      match (givenText? value).bind Uuid.ofText? with
      | some id => .ok id
      | none => refuse column .uuid

def hasTime (text : String) : Bool :=
  text.toList.contains 'T' || text.toList.contains ' '

/-- A text in which the mark of universal time is an offset of zero. -/
def withoutZulu (text : String) : String :=
  String.ofList (replaceWord ['Z'] "+00:00".toList text.toList)

def toDate (column : String) : Value → Outcome Date
  | .moment time => .ok time.date
  | .date day => .ok day
  | value => do
      let text ← Value.written (givenText? value)
      let day? :=
        if hasTime text then (Moment.ofIso? (withoutZulu text)).map (·.date) else Date.ofIso? text
      match day? with
      | some day => .ok day
      | none => refuse column .date

def readMoment? (text : String) : Option Moment :=
  if !hasTime text ∧ text.length = 10 then
    (Date.ofIso? text).map fun day => ⟨day, .midnight, none⟩
  else Moment.ofIso? (withoutZulu text)

/-- The moment that a value stands for, by universal time unless it has an offset. -/
def toMoment (column : String) : Value → Outcome Moment
  | .moment time => .ok time.assumeUtc
  | value => do
      match readMoment? (← Value.written (givenText? value)) with
      | some time => .ok time.assumeUtc
      | none => refuse column .moment

def toText (column : String) : Value → Outcome Value
  | .list _ | .object _ => refuse column .text
  | value => .str <$> value.text

end Coercion

open Coercion

def coerce (column : Column) (value : Value) : Outcome Value :=
  match column.kind with
  | .text => toText column.label value
  | .integer => toInteger column.label value
  | .real => toReal column.label value
  | .numeric => toNumeric column.label value
  | .boolean => .bool <$> toBool column.label value
  | .uuid => .uuid <$> toUuid column.label value
  | .date => .date <$> toDate column.label value
  | .moment => .moment <$> toMoment column.label value
  | .time | .interval | .json | .bytes | .untyped => .ok value

/-- A value that names a whole day: a day, or the text of one without a time of day. -/
def namesDay : Value → Bool
  | .date _ => true
  | .str s =>
      let text := strip s
      !text.isEmpty && !hasTime text && (Date.ofIso? text).isSome
  | _ => false

end GridQuery
