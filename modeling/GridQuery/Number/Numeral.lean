import GridQuery.Number.Double
import GridQuery.Text.Blank
import GridQuery.Text.Digit
import GridQuery.Text.Fold

/-!
Numbers written out by people.  A numeral may use the digits and blanks of any
script, blanks around it, and single underscores between its digits.
`Integer.read` reads whole numbers, `Double.ofText?` decimal fractions with an
optional exponent.
-/

namespace GridQuery.Numeral

open Text

def isSpace (c : Char) : Bool :=
  (9 ≤ c.toNat && c.toNat ≤ 13) || c == ' '

/-- The ASCII character a numeral's character stands for; a question mark is in no numeral. -/
def plainChar (c : Char) : Char :=
  if c.toNat < 128 then c
  else if isBlank c then ' '
  else
    match decimalDigit? c with
    | some n => digitChar n
    | none => '?'

def plain (cs : List Char) : List Char :=
  trimWhere isSpace (cs.map plainChar)

def plainAscii (cs : List Char) : List Char :=
  trimWhere isSpace cs

/-- An optional sign, and what follows it. -/
def takeSign : List Char → Bool × List Char
  | '-' :: rest => (true, rest)
  | '+' :: rest => (false, rest)
  | rest => (false, rest)

def digitOf? (base : Nat) (c : Char) : Option Nat :=
  (asciiDigit? c).filter (· < base)

def takeDigits (cs : List Char) : List Char × List Char :=
  cs.span Char.isDigit

def valueOf (digits : List Char) : Nat :=
  digits.foldl (fun value c => 10 * value + (c.toNat - '0'.toNat)) 0

structure Run where
  value : Nat
  count : Nat
  rest : List Char

/-- Digits of a base with single underscores between them; none if one stands elsewhere. -/
def scan (base : Nat) : (value count : Nat) → (afterMark : Bool) → List Char → Option Run
  | value, count, afterMark, [] => if afterMark then none else some ⟨value, count, []⟩
  | value, count, afterMark, c :: rest =>
      if c = '_' then
        if afterMark then none else scan base value count true rest
      else
        match digitOf? base c with
        | some digit => scan base (base * value + digit) (count + 1) false rest
        | none => if afterMark then none else some ⟨value, count, c :: rest⟩

end GridQuery.Numeral

namespace GridQuery.Integer

open Text Numeral

inductive Failure where
  | malformed
  | tooLong (digits : Nat)
  deriving DecidableEq, Repr

/-- The greatest number of decimal digits that are read or written. -/
def digitLimit : Nat := 4300

def tooLongText (digits : Nat) : String :=
  let count (n : Nat) := String.ofList (Nat.toDigits 10 n)
  "Exceeds the limit (" ++ count digitLimit ++
    " digits) for integer string conversion: value has " ++ count digits ++
    " digits; use sys.set_int_max_str_digits() to increase the limit"

def notWrittenText : String :=
  "Exceeds the limit (" ++ String.ofList (Nat.toDigits 10 digitLimit) ++
    " digits) for integer string conversion; use sys.set_int_max_str_digits() to increase the limit"

/-- The mark `0x` that may open a hexadecimal numeral, with one underscore after it. -/
def dropHexMark : List Char → List Char
  | '0' :: 'x' :: '_' :: rest | '0' :: 'X' :: '_' :: rest => rest
  | '0' :: 'x' :: rest | '0' :: 'X' :: rest => rest
  | rest => rest

def readUnsigned (base : Nat) (limit : Option Nat) : List Char → Except Failure Nat
  | '_' :: _ => .error .malformed
  | cs =>
      match scan base 0 0 false cs with
      | none => .error .malformed
      | some run =>
          if limit.any (· < run.count) then .error (.tooLong run.count)
          else if run.count = 0 ∨ !run.rest.isEmpty then .error .malformed
          else .ok run.value

def read (s : String) : Except Failure Int :=
  let (negative, digits) := takeSign (plain s.toList)
  (Double.withSign negative) <$> readUnsigned 10 (some digitLimit) digits

def ofText? (s : String) : Option Int :=
  (read s).toOption

def ofHexText? (cs : List Char) : Option Int :=
  let (negative, digits) := takeSign (plain cs)
  ((Double.withSign negative) <$> readUnsigned 16 none (dropHexMark digits)).toOption

def text (n : Int) : String :=
  String.ofList ((if n < 0 then ['-'] else []) ++ Nat.toDigits 10 n.natAbs)

def text? (n : Int) : Option String :=
  if digitLimit < (Nat.toDigits 10 n.natAbs).length then none else some (text n)

end GridQuery.Integer

namespace GridQuery

open Numeral

def naturalText (n : Nat) : String :=
  Integer.text n

structure DecimalForm where
  negative : Bool
  whole : List Char
  fraction : List Char
  exponent : Int
  deriving DecidableEq, Repr

namespace DecimalForm

def coefficient (form : DecimalForm) : Nat :=
  valueOf (form.whole ++ form.fraction)

/-- The power of ten that the last digit counts. -/
def scale (form : DecimalForm) : Int :=
  form.exponent - form.fraction.length

def exponent? : List Char → Option Int
  | [] => some 0
  | mark :: rest =>
      if mark = 'e' ∨ mark = 'E' then
        let (negative, digits) := takeSign rest
        if digits.isEmpty ∨ !digits.all Char.isDigit then none
        else some (Double.withSign negative (valueOf digits))
      else none

/-- Read `digits[.digits][e[sign]digits]`, with at least one digit before the exponent. -/
def ofUnsigned? (negative : Bool) (cs : List Char) : Option DecimalForm :=
  let (whole, rest) := takeDigits cs
  let (fraction, rest) :=
    match rest with
    | '.' :: rest => takeDigits rest
    | _ => ([], rest)
  if whole.isEmpty ∧ fraction.isEmpty then none
  else (exponent? rest).map fun exponent => ⟨negative, whole, fraction, exponent⟩

end DecimalForm

namespace Double

open Text

/-- Remove the underscores of a numeral if each stands between two digits. -/
def dropMarks : (afterDigit : Bool) → List Char → Option (List Char)
  | _, [] => some []
  | afterDigit, '_' :: rest =>
      match rest with
      | next :: _ => if afterDigit && next.isDigit then dropMarks false rest else none
      | [] => none
  | _, c :: rest => (dropMarks c.isDigit rest).map (c :: ·)

/-- The double nearest to a decimal numeral; infinity and the undefined number have names. -/
def ofText? (s : String) : Option Double := do
  let cs ← dropMarks false (plain s.toList)
  let (negative, unsigned) := takeSign cs
  let word := String.ofList (unsigned.map foldChar)
  if word = "inf" ∨ word = "infinity" then some (.infinite negative)
  else if word = "nan" then some .nan
  else
    let form ← DecimalForm.ofUnsigned? negative unsigned
    some (ofDecimal negative form.coefficient form.scale)

end Double

end GridQuery
