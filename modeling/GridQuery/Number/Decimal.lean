import GridQuery.Number.Numeral
import GridQuery.Text.Fold

/-!
Decimal numbers with their exponent.  `1.50` and `1.5` are equal in value and
differ as terms: a decimal keeps the places it was written with, and `text`
writes it so that reading gives the same term back.
-/

namespace GridQuery

inductive Decimal where
  | finite (negative : Bool) (coefficient : Nat) (exponent : Int)
  | infinite (negative : Bool)
  | nan (negative signaling : Bool) (payload : Nat)
  deriving DecidableEq, Repr, Inhabited

namespace Decimal

open Text Numeral

def greatestLead : Int := 999999999999999999

/-- The least exponent of a decimal's last digit. -/
def leastExponent : Int := -1999999999999999997

def lead (coefficient : Nat) (exponent : Int) : Int :=
  (Nat.toDigits 10 coefficient).length + exponent - 1

/-- The exponents stay in a range of eighteen digits. -/
def isInRange (coefficient : Nat) (exponent : Int) : Bool :=
  leastExponent ≤ exponent && lead coefficient exponent ≤ greatestLead

def ofInt (n : Int) : Decimal :=
  .finite (n < 0) n.natAbs 0

def undefined? (negative signaling : Bool) (payload : List Char) : Option Decimal :=
  if payload.all Char.isDigit then some (.nan negative signaling (valueOf payload)) else none

def dropWord? (word cs : List Char) : Option (List Char) :=
  if word.isPrefixOf cs then some (cs.drop word.length) else none

/-- The number in a text: blanks around it and underscores anywhere in it are ignored. -/
def ofText? (s : String) : Option Decimal :=
  let cs := ((stripChars s.toList).filter (· ≠ '_')).map plainChar
  let (negative, unsigned) := takeSign cs
  let folded := unsigned.map foldChar
  if folded = ['i', 'n', 'f'] ∨ folded = ['i', 'n', 'f', 'i', 'n', 'i', 't', 'y'] then
    some (.infinite negative)
  else
    match dropWord? ['n', 'a', 'n'] folded, dropWord? ['s', 'n', 'a', 'n'] folded with
    | some payload, _ => undefined? negative false payload
    | none, some payload => undefined? negative true payload
    | none, none => do
        let form ← DecimalForm.ofUnsigned? negative unsigned
        if isInRange form.coefficient form.scale then
          some (.finite negative form.coefficient form.scale)
        else none

/-- The digits of a finite number: positional when its places are written and it is not
below a millionth, otherwise with an exponent. -/
def magnitudeText (coefficient : Nat) (exponent : Int) : List Char :=
  let digits := Nat.toDigits 10 coefficient
  let leading := lead coefficient exponent
  if exponent ≤ 0 ∧ -6 ≤ leading then
    let places := exponent.natAbs
    if places = 0 then digits
    else
      let padded := List.replicate (places + 1 - digits.length) '0' ++ digits
      padded.take (padded.length - places) ++ '.' :: padded.drop (padded.length - places)
  else
    let fraction := if digits.length = 1 then [] else '.' :: digits.drop 1
    digits.take 1 ++ fraction ++ ['E', if leading < 0 then '-' else '+'] ++
      Nat.toDigits 10 leading.natAbs

def signText (negative : Bool) : List Char :=
  if negative then ['-'] else []

def text : Decimal → String
  | .finite negative coefficient exponent =>
      String.ofList (signText negative ++ magnitudeText coefficient exponent)
  | .infinite negative => String.ofList (signText negative) ++ "Infinity"
  | .nan negative signaling payload =>
      String.ofList (signText negative) ++ (if signaling then "sNaN" else "NaN") ++
        if payload = 0 then "" else String.ofList (Nat.toDigits 10 payload)

def isZero : Decimal → Bool
  | .finite _ coefficient _ => coefficient == 0
  | _ => false

/-- The nearest double; a signaling undefined number has none. -/
def toDouble? : Decimal → Option Double
  | .finite negative coefficient exponent => some (.ofDecimal negative coefficient exponent)
  | .infinite negative => some (.infinite negative)
  | .nan _ signaling _ => if signaling then none else some .nan

example : magnitudeText 5 (-7) = ['5', 'E', '-', '7'] ∧ magnitudeText 1 3 = ['1', 'E', '+', '3'] ∧
    magnitudeText 50 (-2) = ['0', '.', '5', '0'] := by decide +kernel

end Decimal

end GridQuery
