/-!
Powers of two and of ten, by exponents that come from a number's scale, and
the integers that fit a word of 64 bits.  A negative exponent gives one: the
other side of the fraction carries the power.
-/

namespace GridQuery

def twoTo (exponent : Int) : Nat := Nat.pow 2 exponent.toNat

def tenTo (exponent : Int) : Nat := Nat.pow 10 exponent.toNat

theorem twoTo_pos (exponent : Int) : 0 < twoTo exponent :=
  Nat.pow_pos Nat.two_pos

/-- The number of integers from zero on that fit a word. -/
def wordBound : Int := 0x8000000000000000

def isWord (n : Int) : Bool :=
  -wordBound ≤ n && n < wordBound

theorem isWord_iff (n : Int) : isWord n = true ↔ -wordBound ≤ n ∧ n < wordBound := by
  unfold isWord
  rw [Bool.and_eq_true, decide_eq_true_iff, decide_eq_true_iff]

example : wordBound = 2 ^ 63 := by decide

end GridQuery
