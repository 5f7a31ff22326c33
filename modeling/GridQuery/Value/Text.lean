import GridQuery.Calendar.Iso
import GridQuery.Error
import GridQuery.Number.Shortest
import GridQuery.Text.Quoted
import GridQuery.Value.Basic

/-!
The text of a value.  A text is its own text; `Value.literal?` is the form a
value takes inside a list or an object, where texts are quoted and the kinds
that have no literal are written as a call of their constructor.  Integers of
too many digits are not written, neither alone nor inside another value.
-/

namespace GridQuery

open Text

/-- The groups of eight, four, four, four and twelve digits of an identifier. -/
def Uuid.grouped (digits : List Char) : String :=
  let group (start size : Nat) := (digits.drop start).take size
  String.ofList (group 0 8 ++ '-' :: group 8 4 ++ '-' :: group 12 4 ++ '-' :: group 16 4 ++
    '-' :: group 20 12)

def Uuid.text (id : Uuid) : String :=
  Uuid.grouped (hex 32 id.toNat)

def Uuid.digits (id : Uuid) : String :=
  String.ofList (hex 32 id.toNat)

def callText (constructor : String) (arguments : List String) : String :=
  constructor ++ "(" ++ String.intercalate ", " arguments ++ ")"

def Offset.literal (offset : Offset) : String :=
  if offset.micros = 0 then "datetime.timezone.utc"
  else
    let days := offset.micros / (dayMicros : Int)
    let rest := (offset.micros % (dayMicros : Int)).toNat
    let part (name : String) (n : Int) : List String :=
      if n = 0 then [] else [name ++ "=" ++ Integer.text n]
    callText "datetime.timezone" [callText "datetime.timedelta"
      (part "days" days ++ part "seconds" (rest / 1000000 : Nat) ++
        part "microseconds" (rest % 1000000 : Nat))]

def Date.literal (date : Date) : String :=
  callText "datetime.date" ([date.year, date.month, date.day].map naturalText)

/-- A moment as the call that builds it; trailing zeros of the clock are left out. -/
def Moment.literal (moment : Moment) : String :=
  let clock := moment.clock
  let tail :=
    if clock.micro ≠ 0 then [clock.second, clock.micro]
    else if clock.second ≠ 0 then [clock.second] else []
  let fields :=
    [moment.date.year, moment.date.month, moment.date.day, clock.hour, clock.minute] ++ tail
  let zone := match moment.offset with
    | some offset => ["tzinfo=" ++ offset.literal]
    | none => []
  callText "datetime.datetime" (fields.map naturalText ++ zone)

namespace Value

def bracketed (opening : String) (items : List String) (closing : String) : String :=
  opening ++ String.intercalate ", " items ++ closing

mutual

def literal? : Value → Option String
  | null => some "None"
  | bool b => some (if b then "True" else "False")
  | int n => Integer.text? n
  | float x => some x.text
  | str s => some (quote s)
  | bytes content => some (quoteBytes content)
  | decimal d => some ("Decimal('" ++ d.text ++ "')")
  | uuid id => some ("UUID('" ++ id.text ++ "')")
  | date day => some day.literal
  | moment time => some time.literal
  | list items => (literals? items).map fun texts => bracketed "[" texts "]"
  | tuple items =>
      (literals? items).map fun texts =>
        bracketed "(" texts (if items.length = 1 then ",)" else ")")
  | set items =>
      (literals? items).map fun texts =>
        if items.isEmpty then "set()" else bracketed "\x7b" texts "\x7d"
  | object members => (memberLiterals? members).map fun texts => bracketed "\x7b" texts "\x7d"

def literals? : List Value → Option (List String)
  | [] => some []
  | item :: rest => do
      let text ← literal? item
      let texts ← literals? rest
      some (text :: texts)

def memberLiterals? : List (String × Value) → Option (List String)
  | [] => some []
  | (name, value) :: rest => do
      let text ← literal? value
      let texts ← memberLiterals? rest
      some ((quote name ++ ": " ++ text) :: texts)

end

/-- The text of a value, unless an integer in it has too many digits. -/
def text? : Value → Option String
  | str s => some s
  | decimal d => some d.text
  | uuid id => some id.text
  | date day => some day.isoText
  | moment time => some time.spacedText
  | other => other.literal?

/-- Give up on a text that is not written. -/
def written : Option String → Outcome String
  | some text => .ok text
  | none => giveUp .hugeText

theorem written_eq_ok_iff {text? : Option String} {text : String} :
    written text? = .ok text ↔ text? = some text := by
  cases text? <;> simp [written, giveUp]

theorem written_eq_error_iff {text? : Option String} {failure : Failure} :
    written text? = .error failure ↔ text? = none ∧ failure = .fault .hugeText := by
  cases text? <;> simp [written, giveUp, eq_comm]

def text (value : Value) : Outcome String :=
  written value.text?

theorem text_eq_ok_iff {value : Value} {text : String} :
    value.text = .ok text ↔ value.text? = some text :=
  written_eq_ok_iff

theorem text_eq_error_iff {value : Value} {failure : Failure} :
    value.text = .error failure ↔ value.text? = none ∧ failure = .fault .hugeText :=
  written_eq_error_iff

@[simp] theorem text?_str (s : String) : text? (.str s) = some s := rfl

@[simp] theorem text_str (s : String) : text (.str s) = .ok s := rfl

def textOrEmpty : Value → Outcome String
  | null => .ok ""
  | value => value.text

end Value

end GridQuery
