import GridQuery.Number.Double

/-!
The shortest decimal that reads back as a given double.  The reals that round
to a finite number form an interval, closed when the mantissa is even; on the
decimal grids of one, two, … seventeen digits the first that has a point in
the interval next to the number gives the digits, and the nearer of two such
points wins.
-/

namespace GridQuery.Double

structure Digits where
  coefficient : Nat
  exponent : Int
  deriving DecidableEq, Repr

/-- Move trailing zeros of the coefficient into the exponent, at most `fuel` of them. -/
def Digits.normalize : (fuel : Nat) → Digits → Digits
  | 0, digits => digits
  | fuel + 1, digits =>
      if digits.coefficient ≠ 0 ∧ digits.coefficient % 10 = 0 then
        normalize fuel ⟨digits.coefficient / 10, digits.exponent + 1⟩
      else digits

/-- The greatest `t` with `10 ^ t ≤ num / den`, for positive terms of a double's size. -/
def decimalLead (num den : Nat) : Int :=
  let guess : Int := (((num.log2 : Int) - den.log2) * 30103) / 100000 - 2
  let atLeast (t : Int) : Bool := den * tenTo t ≤ num * tenTo (-t)
  ([guess + 4, guess + 3, guess + 2, guess + 1].find? atLeast).getD guess

/-- The point of the grid `10 ^ grid` that reads back as `mantissa · 2 ^ exponent`, if any. -/
def gridPoint? (mantissa : Nat) (exponent grid : Int) : Option Nat :=
  let binary (quarters : Nat) : Nat := quarters * twoTo (exponent - 2) * tenTo (-grid)
  let step : Nat := tenTo grid * twoTo (2 - exponent)
  let centre := binary (4 * mantissa)
  let below :=
    binary (4 * mantissa - if mantissa = leadingBit ∧ leastExponent < exponent then 1 else 2)
  let above := binary (4 * mantissa + 2)
  let inside (point : Nat) : Bool :=
    if mantissa % 2 = 0 then below ≤ point * step && point * step ≤ above
    else below < point * step && point * step < above
  let low := centre / step
  let distance := centre - low * step
  match inside low, inside (low + 1) with
  | false, false => none
  | true, false => some low
  | false, true => some (low + 1)
  | true, true =>
      if 2 * distance < step then some low
      else if step < 2 * distance then some (low + 1)
      else some (low + low % 2)

/-- The digits of the first grid with a point that reads back. -/
def shortest (mantissa : Nat) (exponent : Int) : Digits :=
  let (num, den) := ratio mantissa exponent
  let lead := decimalLead num den
  let found := (List.range 17).findSome? fun (places : Nat) =>
    let grid := lead - (places : Int)
    (gridPoint? mantissa exponent grid).map fun point => (⟨point, grid⟩ : Digits)
  (found.getD ⟨num / den, 0⟩).normalize 20

/-- The text of digits: positional from the ten-thousandths up to sixteen places before the point,
otherwise with an exponent of a sign and at least two digits. -/
def Digits.text (digits : Digits) : List Char :=
  let places := Nat.toDigits 10 digits.coefficient
  let lead := digits.exponent + places.length - 1
  if lead < -4 ∨ 16 ≤ lead then
    let fraction := if places.length = 1 then [] else '.' :: places.drop 1
    let magnitude := Nat.toDigits 10 lead.natAbs
    let padding := if magnitude.length = 1 then ['0'] else []
    places.take 1 ++ fraction ++ ['e', if lead < 0 then '-' else '+'] ++ padding ++ magnitude
  else if lead < 0 then
    ['0', '.'] ++ List.replicate (-lead - 1).toNat '0' ++ places
  else
    let whole := places.take (lead.toNat + 1)
    let fraction := places.drop (lead.toNat + 1)
    whole ++ List.replicate (lead.toNat + 1 - places.length) '0' ++ ['.'] ++
      if fraction.isEmpty then ['0'] else fraction

def text : Double → String
  | .nan => "nan"
  | .infinite negative => if negative then "-inf" else "inf"
  | .finite negative mantissa exponent =>
      let magnitude :=
        if mantissa = 0 then ['0', '.', '0'] else (shortest mantissa exponent).text
      String.ofList (if negative then '-' :: magnitude else magnitude)

example : shortest 7205759403792794 (-56) = ⟨1, -1⟩ ∧ shortest 1 (-1074) = ⟨5, -324⟩ := by
  decide +kernel

example : Digits.text ⟨1, 16⟩ = ['1', 'e', '+', '1', '6'] ∧
    Digits.text ⟨15, -6⟩ = ['1', '.', '5', 'e', '-', '0', '5'] ∧
    Digits.text ⟨3, 1⟩ = ['3', '0', '.', '0'] := by decide +kernel

end GridQuery.Double
