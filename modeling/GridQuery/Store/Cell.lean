import GridQuery.Number.Numeral
import GridQuery.Number.Shortest
import GridQuery.Text.Utf

/-!
What the store keeps in one place of a row, and how it compares two of them.
Null is comparable with nothing; otherwise numbers come before texts and texts
before byte strings, numbers are compared by value and texts by code points.
-/

namespace GridQuery

inductive Cell where
  | null
  | int (n : Int)
  | real (x : Double)
  | text (s : String)
  | blob (content : List UInt8)
  deriving DecidableEq, Repr, Inhabited

namespace Cell

def compareFractions (a b : Int × Nat) : Ordering :=
  compare (a.1 * b.2) (b.1 * a.2)

/-- Compare two numbers by their places on the line: below, on or above the finite numbers. -/
def compareNumbers (a b : Double) : Ordering :=
  match a.fraction?, b.fraction? with
  | some a, some b => compareFractions a b
  | some _, none => if b = .infinite true then .gt else .lt
  | none, some _ => if a = .infinite true then .lt else .gt
  | none, none => compare (a != .infinite true) (b != .infinite true)

/-- Compare an integer with a double, without rounding it. -/
def compareWithInteger (x : Double) (n : Int) : Ordering :=
  match x.fraction? with
  | some fraction => compareFractions fraction (n, 1)
  | none => if x = .infinite true then .lt else .gt

def compareLists {α : Type} (compareItems : α → α → Ordering) : List α → List α → Ordering
  | [], [] => .eq
  | [], _ :: _ => .lt
  | _ :: _, [] => .gt
  | a :: as, b :: bs => (compareItems a b).then (compareLists compareItems as bs)

def rank : Cell → Nat
  | null => 0
  | int _ | real _ => 1
  | text _ => 2
  | blob _ => 3

def order : Cell → Cell → Ordering
  | int a, int b => compare a b
  | int a, real b => (compareWithInteger b a).swap
  | real a, int b => compareWithInteger a b
  | real a, real b => compareNumbers a b
  | text a, text b => compareLists compare (a.toList.map Char.toNat) (b.toList.map Char.toNat)
  | blob a, blob b => compareLists compare (a.map UInt8.toNat) (b.map UInt8.toNat)
  | a, b => compare a.rank b.rank

def order? (a b : Cell) : Option Ordering :=
  if a = null ∨ b = null then none else some (order a b)

/-- The decimal digits of a real number, rounded to fifteen: the digits and the exponent of the
first one. -/
def fifteenDigits (num den : Nat) : List Char × Int :=
  let lead := Double.decimalLead num den
  let shift := 14 - lead
  let rounded := Double.roundHalfEven (num * tenTo shift) (den * tenTo (-shift))
  if rounded = tenTo 15 then (Nat.toDigits 10 (tenTo 14), lead + 1)
  else (Nat.toDigits 10 rounded, lead)

def trimZeros (digits : List Char) : List Char :=
  let kept := (digits.reverse.dropWhile (· = '0')).reverse
  if kept.isEmpty then ['0'] else kept

/-- The text of a positive real number with fifteen significant digits: positional from the
ten-thousandths up to fifteen places before the point. -/
def magnitudeText (num den : Nat) : List Char :=
  let (digits, lead) := fifteenDigits num den
  let digits := trimZeros digits
  if lead < -4 ∨ 15 ≤ lead then
    let fraction := if digits.length = 1 then ['0'] else digits.drop 1
    let exponent := Nat.toDigits 10 lead.natAbs
    digits.take 1 ++ '.' :: fraction ++ ['e', if lead < 0 then '-' else '+'] ++
      List.replicate (2 - exponent.length) '0' ++ exponent
  else if lead < 0 then '0' :: '.' :: List.replicate (-lead - 1).toNat '0' ++ digits
  else
    let whole := lead.toNat + 1
    let fraction := digits.drop whole
    digits.take whole ++ List.replicate (whole - digits.length) '0' ++
      '.' :: if fraction.isEmpty then ['0'] else fraction

def realText : Double → String
  | .nan => ""
  | .infinite negative => if negative then "-Inf" else "Inf"
  | .finite negative mantissa exponent =>
      let (num, den) := Double.ratio mantissa exponent
      let magnitude := if mantissa = 0 then ['0', '.', '0'] else magnitudeText num den
      String.ofList (if negative && mantissa != 0 then '-' :: magnitude else magnitude)

def castText? : Cell → Option String
  | null => none
  | int n => some (Integer.text n)
  | real x => some (realText x)
  | text s => some s
  | blob content => some (String.ofList (Utf.decodeLossy content))

/-- The number that a whole text writes, as an integer if it has an integer's form. -/
def numberOf? (s : String) : Option Cell :=
  let cs := Numeral.plainAscii s.toList
  let (negative, unsigned) := Numeral.takeSign cs
  if !unsigned.isEmpty ∧ unsigned.all Char.isDigit then
    let n := Double.withSign negative (Numeral.valueOf unsigned)
    if isWord n then some (int n) else some (real (.ofInt n))
  else
    (DecimalForm.ofUnsigned? negative unsigned).map fun form =>
      real (.ofDecimal negative form.coefficient form.scale)

inductive Affinity where
  | asNumber
  | asText
  | asIs
  deriving DecidableEq, Repr

/-- A value as a column reads it: a text that writes a number is that number to a column of
numbers, and a number is its text to a column of texts. -/
def read (affinity : Affinity) (cell : Cell) : Cell :=
  match affinity, cell with
  | .asNumber, text s => (numberOf? s).getD (text s)
  | .asText, int n => text (Integer.text n)
  | .asText, real x => text (realText x)
  | _, cell => cell

end Cell

end GridQuery
