import GridQuery.Store.Evaluate
import Mathlib.Logic.Function.Basic

/-!
Cells as their columns read them.  Reading keeps null apart from everything
else, and integers apart from each other, whatever the affinity of the column.
-/

namespace GridQuery

theorem Integer.text_injective : Function.Injective Integer.text := by
  have digits_injective {m n : Nat} (same : Nat.toDigits 10 m = Nat.toDigits 10 n) : m = n := by
    rw [← Nat.ofDigitChars_ten_toDigits (n := m), same, Nat.ofDigitChars_ten_toDigits]
  have noSign {m : Nat} {rest : List Char} : '-' :: rest ≠ Nat.toDigits 10 m := by
    intro same
    have digit : '-'.isDigit = true :=
      Nat.isDigit_of_mem_toDigits (b := 10) (n := m) (by omega) (by omega) (by simp [← same])
    simp at digit
  intro m n sameText
  have sameChars := String.ofList_injective sameText
  by_cases mNegative : m < 0 <;> by_cases nNegative : n < 0
  · have := digits_injective (by simpa [mNegative, nNegative] using sameChars)
    omega
  · simp only [mNegative, nNegative, if_true, if_false, List.nil_append] at sameChars
    exact absurd sameChars noSign
  · simp only [mNegative, nNegative, if_true, if_false, List.nil_append] at sameChars
    exact absurd sameChars.symm noSign
  · have := digits_injective (by simpa [mNegative, nNegative] using sameChars)
    omega

namespace Cell

theorem compareLists_eq_iff {Item : Type} {compareItems : Item → Item → Ordering}
    (lawful : ∀ item other, compareItems item other = .eq ↔ item = other)
    (first second : List Item) :
    compareLists compareItems first second = .eq ↔ first = second := by
  induction first generalizing second with
  | nil => cases second <;> simp [compareLists]
  | cons item rest inductionHypothesis =>
      cases second with
      | nil => simp [compareLists]
      | cons other others =>
          simp only [compareLists, Ordering.then_eq_eq, inductionHypothesis, lawful,
            List.cons.injEq]

theorem order_text_eq_iff (first second : String) :
    order (text first) (text second) = .eq ↔ first = second := by
  rw [order, compareLists_eq_iff fun _ _ => Nat.compare_eq_eq]
  rw [List.map_inj_right fun _ _ => Char.toNat_inj.mp]
  exact String.toList_inj

/-- Integers stay apart, whatever reads them. -/
theorem order_read_int_eq_iff (affinity : Affinity) (m n : Int) :
    order ((int m).read affinity) ((int n).read affinity) = .eq ↔ m = n := by
  cases affinity with
  | asText =>
      simp only [read, order_text_eq_iff]
      exact Integer.text_injective.eq_iff
  | asNumber => simp [read, order]
  | asIs => simp [read, order]

theorem ne_null_of_numberOf? {s : String} {value : Cell} (number : numberOf? s = some value) :
    value ≠ null := by
  unfold numberOf? at number
  dsimp only at number
  split at number
  · split at number <;> (cases number; simp)
  · obtain ⟨form, -, rfl⟩ := Option.map_eq_some_iff.mp number
    simp

theorem read_eq_null_iff (affinity : Affinity) (cell : Cell) :
    cell.read affinity = null ↔ cell = null := by
  cases cell with
  | null => cases affinity <;> simp [read]
  | int n => cases affinity <;> simp [read]
  | real x => cases affinity <;> simp [read]
  | blob content => cases affinity <;> simp [read]
  | text s =>
      cases affinity with
      | asText => simp [read]
      | asIs => simp [read]
      | asNumber =>
          cases number : numberOf? s with
          | none => simp [read, number]
          | some value => simpa [read, number] using ne_null_of_numberOf? number

end Cell

end GridQuery
