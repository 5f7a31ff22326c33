import GridQuery.Text.Utf
import GridQuery.Value.Basic

/-!
Reading JSON texts.  A number with a fraction or an exponent is a double, any
other an integer; `NaN`, `Infinity` and `-Infinity` are numbers too.  Of two
members of one name the first gives the place and the last the value.  A text
that is not JSON is refused with the position where reading stopped.
-/

namespace GridQuery.Json

open Numeral Text

inductive Problem where
  | expectedValue
  | expectedName
  | expectedColon
  | expectedComma
  | extraData
  | unterminated
  | controlCharacter
  | badEscape
  | badCodePoint
  | byteOrderMark
  deriving DecidableEq, Repr

inductive Failure where
  | stopped (problem : Problem) (before : List Char)
  | tooLong (digits : Nat)
  | undecodable (malformed : Utf.Malformed)
  deriving DecidableEq, Repr

/-- Why reading stopped, and after how many characters. -/
inductive Stop where
  | at (problem : Problem) (position : Nat)
  | tooLong (digits : Nat)

/-- A place in a text: the characters before it are counted, those after it are still to be read. -/
structure Cursor where
  position : Nat
  rest : List Char

namespace Cursor

def advance (cursor : Cursor) (count : Nat) : Cursor :=
  ⟨cursor.position + count, cursor.rest.drop count⟩

def fail {α : Type} (cursor : Cursor) (problem : Problem) : Except Stop α :=
  .error (.at problem cursor.position)

end Cursor

def isGap (c : Char) : Bool :=
  c == ' ' || c == '\t' || c == '\n' || c == '\r'

def Cursor.skip (cursor : Cursor) : Cursor :=
  cursor.advance (cursor.rest.takeWhile isGap).length

def codeUnit? (cs : List Char) : Option Nat :=
  if cs.length < 4 then none
  else (cs.take 4).foldlM (fun n c => (digitOf? 16 c).map (16 * n + ·)) 0

def escaped? : Char → Option Char
  | '"' => some '"'
  | '\\' => some '\\'
  | '/' => some '/'
  | 'b' => some '\x08'
  | 'f' => some '\x0c'
  | 'n' => some '\n'
  | 'r' => some '\r'
  | 't' => some '\t'
  | _ => none

/-- The low half of a surrogate pair that follows its high half, if one does. -/
def lowHalf? (position : Nat) : List Char → Except Stop (Option Nat)
  | '\\' :: 'u' :: digits =>
      if digits.length < 5 then .ok none
      else
        match codeUnit? digits with
        | none => .error (.at .badCodePoint (position + 1))
        | some low => .ok (if 0xDC00 ≤ low ∧ low < 0xE000 then some low else none)
  | _ => .ok none

/-- The character of an escape by code point, and the number of characters after the `u`. -/
def readCodePoint (position : Nat) (digits : List Char) : Except Stop (Char × Nat) :=
  if digits.length < 5 then .error (.at .badCodePoint position)
  else
    match codeUnit? digits with
    | none => .error (.at .badCodePoint position)
    | some unit =>
        if 0xD800 ≤ unit ∧ unit < 0xDC00 then
          match lowHalf? (position + 5) (digits.drop 4) with
          | .error stop => .error stop
          | .ok none => .ok (Utf.charOf unit, 4)
          | .ok (some low) =>
              .ok (Utf.charOf (0x10000 + (unit - 0xD800) * 0x400 + (low - 0xDC00)), 10)
        else .ok (Utf.charOf unit, 4)

def readString (opening position : Nat) (done : List Char) :
    List Char → Except Stop (String × Cursor)
  | [] => .error (.at .unterminated opening)
  | '"' :: rest => .ok (String.ofList done.reverse, ⟨position + 1, rest⟩)
  | '\\' :: [] => .error (.at .unterminated opening)
  | '\\' :: 'u' :: rest =>
      match readCodePoint (position + 1) rest with
      | .error stop => .error stop
      | .ok (c, size) => readString opening (position + 2 + size) (c :: done) (rest.drop size)
  | '\\' :: letter :: rest =>
      match escaped? letter with
      | none => .error (.at .badEscape position)
      | some c => readString opening (position + 2) (c :: done) rest
  | c :: rest =>
      if c.toNat < 0x20 then .error (.at .controlCharacter position)
      else readString opening (position + 1) (c :: done) rest
termination_by cs => cs.length
decreasing_by all_goals (simp only [List.length_cons, List.length_drop]; omega)

/-- The exponent at the front, if there is a whole one: its value and its length. -/
def exponentAt : List Char → Option (Int × Nat)
  | mark :: rest =>
      if mark = 'e' ∨ mark = 'E' then
        let signed := rest.head? == some '-' || rest.head? == some '+'
        let (negative, unsigned) := takeSign rest
        let digits := unsigned.takeWhile Char.isDigit
        if digits.isEmpty then none
        else some (Double.withSign negative (valueOf digits),
          digits.length + if signed then 2 else 1)
      else none
  | [] => none

def fractionAt : List Char → List Char
  | '.' :: rest => rest.takeWhile Char.isDigit
  | _ => []

/-- The whole part at the front: a lone zero, or digits that begin with another one. -/
def wholeAt : List Char → List Char
  | '0' :: _ => ['0']
  | cs => cs.takeWhile Char.isDigit

def readNumber? (cursor : Cursor) : Option (Except Stop (Value × Cursor)) :=
  let negative := cursor.rest.head? == some '-'
  let unsigned := if negative then cursor.rest.drop 1 else cursor.rest
  let whole := wholeAt unsigned
  if whole.isEmpty then none
  else
    let fraction := fractionAt (unsigned.drop whole.length)
    let fractionSize := if fraction.isEmpty then 0 else fraction.length + 1
    let exponent := exponentAt (unsigned.drop (whole.length + fractionSize))
    let size := (if negative then 1 else 0) + whole.length + fractionSize +
      ((exponent.map (·.2)).getD 0)
    if fraction.isEmpty ∧ exponent.isNone then
      if Integer.digitLimit < whole.length then some (.error (.tooLong whole.length))
      else some (.ok (.int (Double.withSign negative (valueOf whole)), cursor.advance size))
    else
      let form : DecimalForm := ⟨negative, whole, fraction, (exponent.map (·.1)).getD 0⟩
      some (.ok (.float (.ofDecimal negative form.coefficient form.scale), cursor.advance size))

def words : List (String × Value) :=
  [("null", .null), ("true", .bool true), ("false", .bool false), ("NaN", .float .nan),
    ("Infinity", .float (.infinite false)), ("-Infinity", .float (.infinite true))]

def readWord? (cursor : Cursor) : Option (Value × Cursor) :=
  (words.find? fun word => word.1.toList.isPrefixOf cursor.rest).map fun word =>
    (word.2, cursor.advance word.1.length)

def readAtom (cursor : Cursor) : Except Stop (Value × Cursor) :=
  match readNumber? cursor with
  | some reading => reading
  | none =>
      match readWord? cursor with
      | some found => .ok found
      | none => cursor.fail .expectedValue

def readName (cursor : Cursor) : Except Stop (String × Cursor) := do
  match cursor.rest with
  | '"' :: rest =>
      let (name, after) ← readString cursor.position (cursor.position + 1) [] rest
      let colon := after.skip
      if colon.rest.head? = some ':' then .ok (name, (colon.advance 1).skip)
      else colon.fail .expectedColon
  | _ => cursor.fail .expectedName

mutual

def readValue : (fuel : Nat) → Cursor → Except Stop (Value × Cursor)
  | 0, cursor => cursor.fail .expectedValue
  | fuel + 1, cursor =>
      match cursor.rest with
      | '"' :: rest => do
          let (s, after) ← readString cursor.position (cursor.position + 1) [] rest
          .ok (.str s, after)
      | '[' :: _ =>
          let inner := (cursor.advance 1).skip
          if inner.rest.head? = some ']' then .ok (.list [], inner.advance 1)
          else do
            let (items, after) ← readItems fuel inner
            .ok (.list items, after)
      | '\x7b' :: _ =>
          let inner := (cursor.advance 1).skip
          if inner.rest.head? = some '\x7d' then .ok (.object [], inner.advance 1)
          else do
            let (members, after) ← readMembers fuel inner
            .ok (.object (Members.ofPairs members), after)
      | _ => readAtom cursor

def readItems : (fuel : Nat) → Cursor → Except Stop (List Value × Cursor)
  | 0, cursor => cursor.fail .expectedValue
  | fuel + 1, cursor => do
      let (item, after) ← readValue fuel cursor
      let after := after.skip
      match after.rest with
      | ']' :: _ => .ok ([item], after.advance 1)
      | ',' :: _ => do
          let (items, last) ← readItems fuel (after.advance 1).skip
          .ok (item :: items, last)
      | _ => after.fail .expectedComma

def readMembers : (fuel : Nat) → Cursor → Except Stop (List (String × Value) × Cursor)
  | 0, cursor => cursor.fail .expectedValue
  | fuel + 1, cursor => do
      let (name, place) ← readName cursor
      let (value, after) ← readValue fuel place
      let after := after.skip
      match after.rest with
      | '\x7d' :: _ => .ok ([(name, value)], after.advance 1)
      | ',' :: _ => do
          let (members, last) ← readMembers fuel (after.advance 1).skip
          .ok ((name, value) :: members, last)
      | _ => after.fail .expectedComma

end

def readAll (cs : List Char) : Except Stop Value := do
  if cs.head? = some '\uFEFF' then .error (.at .byteOrderMark 0)
  else
    let (value, after) ← readValue (2 * (cs.length + 1)) (Cursor.mk 0 cs).skip
    let last := after.skip
    if last.rest.isEmpty then .ok value else last.fail .extraData

def ofChars (cs : List Char) : Except Failure Value :=
  (readAll cs).mapError fun
    | .at problem position => .stopped problem (cs.take position)
    | .tooLong digits => .tooLong digits

def ofText (s : String) : Except Failure Value :=
  ofChars s.toList

/-- The value that the text in some bytes writes; a mark of UTF-8 before the text is allowed. -/
def ofBytes (bytes : List UInt8) : Except Failure Value :=
  match Utf.decode bytes with
  | .error malformed => .error (.undecodable malformed)
  | .ok cs => ofChars cs

namespace Failure

def problemText : Problem → String
  | .expectedValue => "Expecting value"
  | .expectedName => "Expecting property name enclosed in double quotes"
  | .expectedColon => "Expecting ':' delimiter"
  | .expectedComma => "Expecting ',' delimiter"
  | .extraData => "Extra data"
  | .unterminated => "Unterminated string starting at"
  | .controlCharacter => "Invalid control character at"
  | .badEscape => "Invalid \\escape"
  | .badCodePoint => "Invalid \\uXXXX escape"
  | .byteOrderMark => "Unexpected UTF-8 BOM (decode using utf-8-sig)"

def place (before : List Char) : Nat × Nat :=
  (before.count '\n' + 1, (before.reverse.takeWhile (· ≠ '\n')).length + 1)

def message : Failure → String
  | stopped problem before =>
      let (line, column) := place before
      problemText problem ++ ": line " ++ naturalText line ++ " column " ++ naturalText column ++
        " (char " ++ naturalText before.length ++ ")"
  | tooLong digits => Integer.tooLongText digits
  | undecodable malformed => malformed.message

end Failure

end GridQuery.Json
