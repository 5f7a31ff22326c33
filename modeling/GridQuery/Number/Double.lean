import GridQuery.Number.Power

/-!
Double-precision numbers as exact dyadic fractions.  A finite number is
`±mantissa · 2^exponent` in its one canonical form, so two numbers are equal
exactly when their terms are; `Double.ofRatio` rounds a fraction to the nearest
number, a tie going to the even mantissa, and overflows to infinity.
-/

namespace GridQuery

inductive Double where
  | finite (negative : Bool) (mantissa : Nat) (exponent : Int)
  | infinite (negative : Bool)
  | nan
  deriving DecidableEq, Repr, Inhabited

namespace Double

/-- The exponent of the subnormal numbers and of zero. -/
def leastExponent : Int := -1074

def greatestExponent : Int := 971

def leadingBit : Nat := twoTo 52

/-- The quotient of two naturals, rounded to the nearest natural and to the even one on a tie. -/
def roundHalfEven (num den : Nat) : Nat :=
  let quotient := num / den
  let remainder := num % den
  if 2 * remainder < den then quotient
  else if den < 2 * remainder then quotient + 1
  else quotient + quotient % 2

def scaled (num den : Nat) (exponent : Int) : Nat × Nat :=
  (num * twoTo (-exponent), den * twoTo exponent)

/-- The greatest `e` with `2 ^ e ≤ num / den`, for positive terms. -/
def binaryLead (num den : Nat) : Int :=
  let guess : Int := (num.log2 : Int) - den.log2
  let (above, below) := scaled num den guess
  if below ≤ above then guess else guess - 1

def ofRatio (negative : Bool) (num den : Nat) : Double :=
  if num = 0 then .finite negative 0 leastExponent
  else
    let exponent := max (binaryLead num den - 52) leastExponent
    let (above, below) := scaled num den exponent
    let rounded := roundHalfEven above below
    let (mantissa, exponent) :=
      if rounded = 2 * leadingBit then (leadingBit, exponent + 1) else (rounded, exponent)
    if greatestExponent < exponent then .infinite negative
    else .finite negative mantissa exponent

def ofInt (n : Int) : Double :=
  ofRatio (n < 0) n.natAbs 1

/-- The double nearest to `±coefficient · 10 ^ exponent`.

A number of more than 310 places before the point overflows, and one that
begins more than 330 places after it vanishes, whatever its digits are.
-/
def ofDecimal (negative : Bool) (coefficient : Nat) (exponent : Int) : Double :=
  if coefficient = 0 then .finite negative 0 leastExponent
  else
    let lead : Int := (Nat.toDigits 10 coefficient).length + exponent
    if 310 < lead then .infinite negative
    else if lead < -330 then .finite negative 0 leastExponent
    else ofRatio negative (coefficient * tenTo exponent) (tenTo (-exponent))

def isFinite : Double → Bool
  | .finite .. => true
  | _ => false

def isZero : Double → Bool
  | .finite _ mantissa _ => mantissa == 0
  | _ => false

def ratio (mantissa : Nat) (exponent : Int) : Nat × Nat :=
  (mantissa * twoTo exponent, twoTo (-exponent))

def withSign (negative : Bool) (n : Nat) : Int :=
  if negative then -(n : Int) else n

def isIntegral : Double → Bool
  | .finite _ mantissa exponent =>
      let (num, den) := ratio mantissa exponent
      num % den == 0
  | _ => false

def truncate? : Double → Option Int
  | .finite negative mantissa exponent =>
      let (num, den) := ratio mantissa exponent
      some (withSign negative (num / den))
  | _ => none

def ceil? : Double → Option Int
  | .finite negative mantissa exponent =>
      let (num, den) := ratio mantissa exponent
      some (-((withSign (!negative) num) / (den : Int)))
  | _ => none

/-- The terms of a finite number as a signed fraction; the denominator is positive. -/
def fraction? : Double → Option (Int × Nat)
  | .finite negative mantissa exponent =>
      let (num, den) := ratio mantissa exponent
      some (withSign negative num, den)
  | _ => none

example : ofRatio false 1 3 = .finite false 6004799503160661 (-54) := by decide

example : ofInt (2 ^ 53 + 1) = .finite false (2 ^ 52) 1 := by decide +kernel

example : ofDecimal false 1 309 = .infinite false := by decide +kernel

example : (ofRatio true 7 2).truncate? = some (-3) ∧ (ofRatio true 7 2).ceil? = some (-3) ∧
    (ofRatio false 7 2).ceil? = some 4 := by decide +kernel

end Double

end GridQuery
