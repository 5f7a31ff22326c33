import GridQuery.Boundary.IntegerText
import GridQuery.Text.Fold
import GridQuery.Text.Utf

/-!
Checking single values: integers, truth values and texts.  Where a text may
stand for an integer or a truth value, bytes may stand for the text.
-/

namespace GridQuery.Boundary

open Text

def integerOfDouble (x : Double) : Checked Int :=
  match x.truncate? with
  | none => .issue .notFinite
  | some n =>
      if !x.isIntegral then .issue .fractional
      else if (n.natAbs : Int) < wordBound then .ok n else .issue .hugeInteger

/-- The greatest power of ten that a decimal is multiplied out by; a greater one counts as this
one, which is beyond every bound and every text. -/
def greatestPower : Int := 100000

def integerOfDecimal : Decimal → Checked Int
  | .finite negative coefficient exponent =>
      if coefficient = 0 then .ok 0
      else if 0 ≤ exponent then
        .ok (Double.withSign negative (coefficient * tenTo (min exponent greatestPower)))
      else if (Nat.toDigits 10 coefficient).length ≤ exponent.natAbs then .issue .fractional
      else
        let den := tenTo (-exponent)
        if coefficient % den = 0 then .ok (Double.withSign negative (coefficient / den))
        else .issue .fractional
  | _ => .issue .notFinite

def textOfBytes (content : List UInt8) : Option String :=
  (Utf.decodeFrom .eight 0 content).toOption.map String.ofList

def integer : Value → Checked Int
  | .int n => .ok n
  | .bool b => .ok (if b then 1 else 0)
  | .float x => integerOfDouble x
  | .decimal d => integerOfDecimal d
  | .str s => integerOfText s
  | .bytes content =>
      match textOfBytes content with
      | some s => integerOfText s
      | none => .issue .unreadableInteger
  | _ => .issue .notInteger

def integerWithin (least : Int) (greatest : Option Int) (value : Value) : Checked Int := do
  let n ← integer value
  if n < least then .issue (.belowLeast least)
  else
    match greatest with
    | some greatest => if greatest < n then .issue (.aboveGreatest greatest) else .ok n
    | none => .ok n

def text : Value → Checked String
  | .str s => .ok s
  | .bytes content =>
      match textOfBytes content with
      | some s => .ok s
      | none => .issue .notUnicode
  | _ => .issue .notText

def textWithin (limit : Int) (value : Value) : Checked String := do
  let s ← text value
  if limit < s.length then .issue (.tooLong limit) else .ok s

def booleanWords : List (String × Bool) :=
  [("0", false), ("off", false), ("f", false), ("false", false), ("n", false), ("no", false),
    ("1", true), ("on", true), ("t", true), ("true", true), ("y", true), ("yes", true)]

def booleanOfText (s : String) : Checked Bool :=
  match booleanWords.lookup (fold s) with
  | some b => .ok b
  | none => .issue .unreadableBoolean

/-- The truth value that an integer stands for; what does not fit a word is no candidate. -/
def booleanOfInteger (n : Int) : Checked Bool :=
  if n = 0 then .ok false
  else if n = 1 then .ok true
  else if isWord n then .issue .unreadableBoolean
  else .issue .notBoolean

def booleanOfDouble (x : Double) : Checked Bool :=
  match integerOfDouble x with
  | .ok n => booleanOfInteger n
  | .refused _ => .issue .notBoolean

def boolean : Value → Checked Bool
  | .bool b => .ok b
  | .int n => booleanOfInteger n
  | .float x => booleanOfDouble x
  | .decimal d =>
      match d.toDouble? with
      | some x => booleanOfDouble x
      | none => .issue .notBoolean
  | .str s => booleanOfText s
  | .bytes content =>
      match textOfBytes content with
      | some s => booleanOfText s
      | none => .issue .unreadableBoolean
  | _ => .issue .notBoolean

def optional {α : Type} (check : Value → Checked α) (value : Value) : Checked (Option α) :=
  if value.isNull then .ok none else some <$> check value

end GridQuery.Boundary
