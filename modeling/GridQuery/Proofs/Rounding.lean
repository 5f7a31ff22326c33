import GridQuery.Number.Double
import Mathlib.Algebra.Order.Ring.Nat
import Mathlib.Tactic.Linarith
import Mathlib.Tactic.Ring

/-!
Rounding a quotient to a double and then up.  A quotient that is not above an
integer is not rounded above it, since the integer is a double; a quotient that
is above an integer is so by a fraction that a double still shows, as long as
its numerator has no more digits than a mantissa.  So the double of the
quotient is rounded up to the same integer as the quotient itself.
-/

namespace GridQuery

@[simp] theorem twoTo_natCast (n : Nat) : twoTo n = 2 ^ n := by
  simp [twoTo]

theorem twoTo_of_nonpos {exponent : Int} (notPositive : exponent ≤ 0) : twoTo exponent = 1 := by
  simp [twoTo, Int.toNat_of_nonpos notPositive]

@[simp] theorem twoTo_neg_natCast (n : Nat) : twoTo (-(n : Int)) = 1 :=
  twoTo_of_nonpos (by omega)

namespace Double

section Quotients

variable {num den : Nat}

theorem binaryLead_eq (num den : Nat) :
    binaryLead num den =
      if den * twoTo ((num.log2 : Int) - den.log2) ≤ num * twoTo (-((num.log2 : Int) - den.log2))
        then (num.log2 : Int) - den.log2 else (num.log2 : Int) - den.log2 - 1 := rfl

theorem binaryLead_bounds (num den : Nat) :
    (num.log2 : Int) - den.log2 - 1 ≤ binaryLead num den ∧
      binaryLead num den ≤ (num.log2 : Int) - den.log2 := by
  rw [binaryLead_eq]
  split <;> omega

theorem twoTo_binaryLead_le (numPos : num ≠ 0) (den : Nat) :
    den * twoTo (binaryLead num den) ≤ num * twoTo (-binaryLead num den) := by
  rw [binaryLead_eq]
  split
  · next fits => exact fits
  · next tooGreat =>
    -- One of the two powers is one; together they make up for the digits that the terms lack.
    let a := ((num.log2 : Int) - den.log2 - 1).toNat
    let b := (-((num.log2 : Int) - den.log2 - 1)).toNat
    have sameDigits : den.log2 + 1 + a = num.log2 + b := by omega
    calc den * 2 ^ a
      _ ≤ 2 ^ (den.log2 + 1) * 2 ^ a := Nat.mul_le_mul_right _ Nat.lt_log2_self.le
      _ = 2 ^ num.log2 * 2 ^ b := by rw [← pow_add, ← pow_add, sameDigits]
      _ ≤ num * 2 ^ b := Nat.mul_le_mul_right _ (Nat.log2_self_le numPos)

theorem roundHalfEven_le {bound : Nat} (denPos : 0 < den) (notAbove : num ≤ bound * den) :
    roundHalfEven num den ≤ bound := by
  have quotientLe : num / den ≤ bound := Nat.div_le_of_le_mul (by rwa [Nat.mul_comm])
  have parts := Nat.div_add_mod num den
  unfold roundHalfEven
  simp only
  by_cases whole : num / den = bound
  · -- The quotient is the bound itself and nothing remains.
    have noRest : num % den = 0 := by
      rw [whole, Nat.mul_comm] at parts
      omega
    rw [if_pos (by omega)]
    exact quotientLe
  · split
    · exact quotientLe
    · split <;> omega

theorem lt_roundHalfEven {bound excess : Nat} (denPos : 0 < den)
    (above : bound * den + excess ≤ num) (half : den < 2 * excess) :
    bound < roundHalfEven num den := by
  have quotientGe : bound ≤ num / den := (Nat.le_div_iff_mul_le denPos).mpr (by omega)
  have parts := Nat.div_add_mod num den
  unfold roundHalfEven
  simp only
  by_cases whole : num / den = bound
  · -- What remains is the excess at least, so the quotient is rounded up.
    have rest : excess ≤ num % den := by
      rw [whole, Nat.mul_comm] at parts
      omega
    rw [if_neg (by omega), if_pos (by omega)]
    omega
  · split
    · omega
    · split <;> omega

theorem ceil?_finite {mantissa k : Nat} {exponent : Int}
    (below : k * twoTo (-exponent) < mantissa * twoTo exponent)
    (above : mantissa * twoTo exponent ≤ (k + 1) * twoTo (-exponent)) :
    (finite false mantissa exponent).ceil? = some ((k + 1 : Nat) : Int) := by
  have denPos : (0 : Int) < twoTo (-exponent) := by exact_mod_cast twoTo_pos (-exponent)
  have belowInt : (k : Int) * twoTo (-exponent) < mantissa * twoTo exponent := by
    exact_mod_cast below
  have aboveInt : (mantissa : Int) * twoTo exponent ≤ (k + 1) * twoTo (-exponent) := by
    exact_mod_cast above
  have quotient : -((mantissa : Int) * twoTo exponent) / twoTo (-exponent) = -(k + 1) := by
    apply le_antisymm
    · apply Int.le_of_lt_add_one
      rw [Int.ediv_lt_iff_lt_mul denPos]
      linarith
    · rw [Int.le_ediv_iff_mul_le denPos]
      linarith
  simp only [ceil?, ratio, withSign, Bool.not_false, if_true, Nat.cast_mul, quotient]
  simp

/-- A full mantissa moves on to the next exponent; the number stays the same. -/
theorem ceil?_full {k shift : Nat} (below : k * 2 ^ shift < 2 * leadingBit)
    (above : 2 * leadingBit ≤ (k + 1) * 2 ^ shift) :
    (finite false leadingBit (-(shift : Int) + 1)).ceil? = some ((k + 1 : Nat) : Int) := by
  cases shift with
  | zero =>
      apply ceil?_finite
      · simpa [twoTo, Nat.mul_comm] using below
      · simpa [twoTo, Nat.mul_comm] using above
  | succ shift =>
      have exponent : -((shift + 1 : Nat) : Int) + 1 = -(shift : Int) := by omega
      rw [pow_succ] at below above
      apply ceil?_finite
      · rw [exponent, neg_neg, twoTo_natCast, twoTo_neg_natCast]
        linarith
      · rw [exponent, neg_neg, twoTo_natCast, twoTo_neg_natCast]
        linarith

theorem den_lt_of_binaryLead {shift : Nat} (numPos : num ≠ 0) (numSmall : num < twoTo 53)
    (shiftIs : binaryLead num den - 52 = -(shift : Int)) : den < 2 * 2 ^ shift := by
  have leadFits := twoTo_binaryLead_le numPos den
  let a := (binaryLead num den).toNat
  let b := (-binaryLead num den).toNat
  have sameDigits : 53 + b = shift + 1 + a := by omega
  have scaledHalf : den * 2 ^ a < 2 ^ (shift + 1) * 2 ^ a := by
    calc den * 2 ^ a
      _ ≤ num * 2 ^ b := leadFits
      _ < 2 ^ 53 * 2 ^ b := Nat.mul_lt_mul_of_pos_right numSmall (Nat.two_pow_pos b)
      _ = 2 ^ (shift + 1) * 2 ^ a := by rw [← pow_add, ← pow_add, sameDigits]
  have unscaled := Nat.lt_of_mul_lt_mul_right scaledHalf
  omega

/-- A quotient that neither vanishes nor overflows is rounded at the last place of its mantissa. -/
theorem ofRatio_eq {shift : Nat} (numPos : num ≠ 0) (small : shift ≤ 1074)
    (shiftIs : binaryLead num den - 52 = -(shift : Int)) :
    ofRatio false num den =
      if roundHalfEven (num * 2 ^ shift) den = 2 * leadingBit
      then .finite false leadingBit (-(shift : Int) + 1)
      else .finite false (roundHalfEven (num * 2 ^ shift) den) (-(shift : Int)) := by
  have exponentIs : max (binaryLead num den - 52) leastExponent = -(shift : Int) := by
    unfold leastExponent
    omega
  have inRange : ¬ greatestExponent < -(shift : Int) ∧ ¬ greatestExponent < -(shift : Int) + 1 := by
    unfold greatestExponent
    omega
  unfold ofRatio
  rw [if_neg numPos]
  simp only [exponentIs, scaled, neg_neg, twoTo_natCast, twoTo_neg_natCast, Nat.mul_one]
  by_cases full : roundHalfEven (num * 2 ^ shift) den = 2 * leadingBit
  · simp [full, inRange]
  · simp [full, inRange]

/-- The double of a quotient is rounded up to the same integer as the quotient. -/
theorem ceil?_ofRatio {k : Nat} (denPos : 0 < den) (numSmall : num < twoTo 53)
    (denSmall : den < twoTo 63) (below : k * den < num) (above : num ≤ (k + 1) * den) :
    (ofRatio false num den).ceil? = some ((k + 1 : Nat) : Int) := by
  have numPos : num ≠ 0 := by omega
  have numBits : num.log2 < 53 := (Nat.log2_lt numPos).mpr numSmall
  have denBits : den.log2 < 63 := (Nat.log2_lt denPos.ne').mpr denSmall
  obtain ⟨leadGe, leadLe⟩ := binaryLead_bounds num den
  obtain ⟨shift, shiftIs⟩ : ∃ shift : Nat, binaryLead num den - 52 = -(shift : Int) :=
    ⟨(52 - binaryLead num den).toNat, by omega⟩
  have roundedAbove : roundHalfEven (num * 2 ^ shift) den ≤ (k + 1) * 2 ^ shift := by
    apply roundHalfEven_le denPos
    calc num * 2 ^ shift
      _ ≤ (k + 1) * den * 2 ^ shift := Nat.mul_le_mul_right _ above
      _ = (k + 1) * 2 ^ shift * den := by ring
  -- The quotient is above `k` by one part of the denominator at least, which is more than half a
  -- unit of the last place.
  have roundedBelow : k * 2 ^ shift < roundHalfEven (num * 2 ^ shift) den := by
    apply lt_roundHalfEven denPos _ (den_lt_of_binaryLead numPos numSmall shiftIs)
    calc k * 2 ^ shift * den + 2 ^ shift
      _ = (k * den + 1) * 2 ^ shift := by ring
      _ ≤ num * 2 ^ shift := Nat.mul_le_mul_right _ below
  rw [ofRatio_eq numPos (by omega) shiftIs]
  split
  · next full =>
      rw [full] at roundedAbove roundedBelow
      exact ceil?_full roundedBelow roundedAbove
  · apply ceil?_finite
    · simpa using roundedBelow
    · simpa using roundedAbove

end Quotients

end Double

end GridQuery
