import GridQuery.Store.Cell
import Mathlib.Algebra.Order.Field.Rat
import Mathlib.Algebra.Order.Ring.Cast
import Mathlib.Data.List.Lex
import Mathlib.Data.Prod.Lex
import Mathlib.Order.Compare
import Mathlib.Order.WithBot

/-!
The order of cells is one of a line.  Every cell has a place: first its kind,
then its number or its characters; cells are compared as their places are, so
the order is total and transitive, and null comes before everything else.
-/

namespace GridQuery

namespace Double

theorem fraction?_pos {x : Double} {fraction : Int × Nat} (finite : x.fraction? = some fraction) :
    0 < fraction.2 := by
  cases x with
  | finite negative mantissa exponent =>
      obtain rfl : _ = fraction := by simpa [fraction?] using finite
      exact twoTo_pos _
  | infinite negative => simp [fraction?] at finite
  | nan => simp [fraction?] at finite

def place (x : Double) : WithBot (WithTop ℚ) :=
  match x.fraction? with
  | some (num, den) => ((num / den : ℚ) : WithTop ℚ)
  | none => if x = .infinite true then ⊥ else ⊤

end Double

namespace Cell

open Ordering

theorem compare_compares {Number : Type} [LinearOrder Number] (a b : Number) :
    (compare a b).Compares a b := by
  rcases lt_trichotomy a b with less | rfl | greater
  · rw [compare_lt_iff_lt.mpr less]
    exact less
  · rw [compare_eq_iff_eq.mpr rfl]
    exact rfl
  · rw [compare_gt_iff_gt.mpr greater]
    exact greater

theorem compareFractions_compares {a b : Int × Nat} (aPos : 0 < a.2) (bPos : 0 < b.2) :
    (compareFractions a b).Compares (a.1 / a.2 : ℚ) (b.1 / b.2 : ℚ) := by
  have aPosRat : (0 : ℚ) < a.2 := by exact_mod_cast aPos
  have bPosRat : (0 : ℚ) < b.2 := by exact_mod_cast bPos
  have compared := compare_compares (a.1 * b.2) (b.1 * a.2)
  unfold compareFractions
  cases result : compare (a.1 * b.2) (b.1 * a.2) with
  | lt =>
      rw [result] at compared
      exact (div_lt_div_iff₀ aPosRat bPosRat).mpr (by exact_mod_cast compared)
  | eq =>
      rw [result] at compared
      exact (div_eq_div_iff aPosRat.ne' bPosRat.ne').mpr (by exact_mod_cast compared)
  | gt =>
      rw [result] at compared
      exact (div_lt_div_iff₀ bPosRat aPosRat).mpr (by exact_mod_cast compared)

theorem coe_compares {ordering : Ordering} {a b : ℚ} (compared : ordering.Compares a b) :
    ordering.Compares ((a : WithTop ℚ) : WithBot (WithTop ℚ))
      ((b : WithTop ℚ) : WithBot (WithTop ℚ)) :=
  (WithBot.coe_strictMono.comp WithTop.coe_strictMono).compares.mpr compared

theorem infinities_compares (a b : Double) :
    (compare (a != .infinite true) (b != .infinite true)).Compares
      (if a = .infinite true then ⊥ else ⊤ : WithBot (WithTop ℚ))
      (if b = .infinite true then ⊥ else ⊤) := by
  have apart : (⊥ : WithBot (WithTop ℚ)) < ⊤ := bot_lt_top
  by_cases below : a = .infinite true <;> by_cases otherBelow : b = .infinite true
  · rw [below, otherBelow]
    exact rfl
  · have above : (b != .infinite true) = true := by simpa using otherBelow
    rw [below, above, if_neg otherBelow]
    exact apart
  · have above : (a != .infinite true) = true := by simpa using below
    rw [otherBelow, above, if_neg below]
    exact apart
  · have above : (a != .infinite true) = true := by simpa using below
    have otherAbove : (b != .infinite true) = true := by simpa using otherBelow
    rw [above, otherAbove, if_neg below, if_neg otherBelow]
    exact rfl

theorem compareNumbers_compares (a b : Double) : (compareNumbers a b).Compares a.place b.place := by
  unfold compareNumbers Double.place
  cases aFraction : a.fraction? with
  | some fraction =>
      cases bFraction : b.fraction? with
      | some other =>
          apply coe_compares
          exact compareFractions_compares (Double.fraction?_pos aFraction)
            (Double.fraction?_pos bFraction)
      | none =>
          by_cases below : b = .infinite true
          · simp [below, Compares, WithBot.bot_lt_coe]
          · simp [below, Compares, ← WithBot.coe_top]
  | none =>
      cases bFraction : b.fraction? with
      | some other =>
          by_cases below : a = .infinite true
          · simp [below, Compares, WithBot.bot_lt_coe]
          · simp [below, Compares, ← WithBot.coe_top]
      | none =>
          exact infinities_compares a b

theorem compareWithInteger_compares (x : Double) (n : Int) :
    (compareWithInteger x n).Compares x.place (((n : ℚ) : WithTop ℚ) : WithBot (WithTop ℚ)) := by
  unfold compareWithInteger Double.place
  cases finite : x.fraction? with
  | some fraction =>
      have compared := compareFractions_compares (b := (n, 1)) (Double.fraction?_pos finite)
        Nat.one_pos
      apply coe_compares
      simpa using compared
  | none =>
      by_cases below : x = .infinite true
      · simp [below, Compares, WithBot.bot_lt_coe]
      · simp [below, Compares, ← WithBot.coe_top]

theorem compareLists_compares (first second : List ℕ) :
    (compareLists compare first second).Compares first second := by
  induction first generalizing second with
  | nil =>
      cases second with
      | nil => exact rfl
      | cons other others => exact List.nil_lt_cons other others
  | cons item rest inductionHypothesis =>
      cases second with
      | nil => exact List.nil_lt_cons item rest
      | cons other others =>
          unfold compareLists
          have compared := compare_compares item other
          have later := inductionHypothesis others
          cases result : compare item other with
          | lt =>
              rw [result] at compared
              exact List.cons_lt_cons_iff.mpr (.inl compared)
          | gt =>
              rw [result] at compared
              exact List.cons_lt_cons_iff.mpr (.inl compared)
          | eq =>
              rw [result] at compared
              obtain rfl : item = other := compared
              cases restResult : compareLists compare rest others with
              | lt =>
                  rw [restResult] at later
                  exact List.cons_lt_cons_iff.mpr (.inr ⟨rfl, later⟩)
              | gt =>
                  rw [restResult] at later
                  exact List.cons_lt_cons_iff.mpr (.inr ⟨rfl, later⟩)
              | eq =>
                  rw [restResult] at later
                  exact congrArg (item :: ·) later

/-- The place of a cell in the order of all cells. -/
def place : Cell → ℕ ×ₗ WithBot (WithTop ℚ) ×ₗ List ℕ
  | null => toLex (0, toLex (⊥, []))
  | int n => toLex (1, toLex (((n : ℚ) : WithTop ℚ), []))
  | real x => toLex (1, toLex (x.place, []))
  | text s => toLex (2, toLex (⊥, s.toList.map Char.toNat))
  | blob content => toLex (3, toLex (⊥, content.map UInt8.toNat))

theorem number_compares {ordering : Ordering} {x y : WithBot (WithTop ℚ)}
    (compared : ordering.Compares x y) (rank : ℕ) :
    ordering.Compares (toLex (rank, toLex (x, ([] : List ℕ)))) (toLex (rank, toLex (y, []))) := by
  cases ordering with
  | lt =>
      apply Prod.Lex.toLex_lt_toLex.mpr
      exact .inr ⟨rfl, Prod.Lex.toLex_lt_toLex.mpr (.inl compared)⟩
  | gt =>
      apply Prod.Lex.toLex_lt_toLex.mpr
      exact .inr ⟨rfl, Prod.Lex.toLex_lt_toLex.mpr (.inl compared)⟩
  | eq =>
      obtain rfl : x = y := compared
      exact rfl

theorem characters_compares {ordering : Ordering} {first second : List ℕ}
    (compared : ordering.Compares first second) (rank : ℕ) :
    ordering.Compares (toLex (rank, toLex ((⊥ : WithBot (WithTop ℚ)), first)))
      (toLex (rank, toLex (⊥, second))) := by
  cases ordering with
  | lt =>
      apply Prod.Lex.toLex_lt_toLex.mpr
      exact .inr ⟨rfl, Prod.Lex.toLex_lt_toLex.mpr (.inr ⟨rfl, compared⟩)⟩
  | gt =>
      apply Prod.Lex.toLex_lt_toLex.mpr
      exact .inr ⟨rfl, Prod.Lex.toLex_lt_toLex.mpr (.inr ⟨rfl, compared⟩)⟩
  | eq =>
      obtain rfl : first = second := compared
      exact rfl

theorem order_compares (a b : Cell) : (order a b).Compares a.place b.place := by
  have less {a b : ℕ ×ₗ WithBot (WithTop ℚ) ×ₗ List ℕ} (lower : (ofLex a).1 < (ofLex b).1) :
      a < b :=
    Prod.Lex.lt_iff.mpr (.inl lower)
  cases a with
  | null => cases b <;> first | exact rfl | exact less (by simp [place])
  | int m =>
      cases b with
      | int n =>
          apply number_compares
          apply coe_compares
          exact (Int.cast_strictMono (R := ℚ)).compares.mpr (compare_compares m n)
      | real y =>
          apply number_compares
          exact (compareWithInteger_compares y m).swap
      | _ => exact less (by simp [place])
  | real x =>
      cases b with
      | int n => exact number_compares (compareWithInteger_compares x n) 1
      | real y => exact number_compares (compareNumbers_compares x y) 1
      | _ => exact less (by simp [place])
  | text s =>
      cases b with
      | text t => exact characters_compares (compareLists_compares _ _) 2
      | _ => exact less (by simp [place])
  | blob content =>
      cases b with
      | blob other => exact characters_compares (compareLists_compares _ _) 3
      | _ => exact less (by simp [place])

theorem order_ne_gt_iff (a b : Cell) : order a b ≠ .gt ↔ a.place ≤ b.place :=
  (order_compares a b).ne_gt

theorem order_swap (a b : Cell) : (order a b).swap = order b a :=
  (order_compares a b).swap.inj (order_compares b a)

theorem order_null_eq_lt {cell : Cell} (given : cell ≠ null) : order null cell = .lt := by
  cases cell with
  | null => exact absurd rfl given
  | _ => rfl

end Cell

end GridQuery
