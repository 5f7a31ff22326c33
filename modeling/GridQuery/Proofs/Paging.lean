import GridQuery.Proofs.Rounding
import GridQuery.Proofs.Selection
import GridQuery.Sample.Endpoints
import GridQuery.Store.Paginate
import Mathlib.Algebra.Order.Floor.Div

/-!
Pages tile a result.  The number of pages is computed from a rounded quotient
and the rows of a page from integer offsets; they agree, so the pages up to the
last are the whole result, each full but the last, and later ones are empty.
-/

namespace GridQuery

open Store

theorem ceilDiv_le_iff {total size count : Nat} (sizePos : 0 < size) :
    total ⌈/⌉ size ≤ count ↔ total ≤ count * size := by
  rw [Nat.mul_comm]
  exact ceilDiv_le_iff_le_mul sizePos

/-- The rounded quotient gives the least number of pages that hold all rows. -/
theorem Page.count_eq_ceilDiv {total size : Nat} (few : total < twoTo 53) (sizePos : 0 < size)
    (sizeWord : isWord size = true) :
    Page.count total size = .ok ((total ⌈/⌉ size : Nat) : Int) := by
  unfold count
  by_cases empty : total = 0
  · simp [empty]
  · have sizeSmall : size < twoTo 63 := by
      have bound : wordBound = twoTo 63 := by decide
      have inWord := (isWord_iff size).mp sizeWord
      omega
    obtain ⟨k, pages⟩ : ∃ k, total ⌈/⌉ size = k + 1 := by
      apply Nat.exists_eq_add_one_of_ne_zero
      intro none
      have noRows := (ceilDiv_le_iff sizePos).mp none.le
      omega
    have below : k * size < total := by
      by_contra enough
      have fewer : total ⌈/⌉ size ≤ k := (ceilDiv_le_iff sizePos).mpr (Nat.not_lt.mp enough)
      omega
    have above : total ≤ (k + 1) * size := (ceilDiv_le_iff sizePos).mp pages.le
    have sizeKept : max 1 (size : Int) = size := by omega
    rw [if_neg (by omega), sizeKept, Int.toNat_natCast, Int.toNat_natCast,
      Double.ceil?_ofRatio sizePos few sizeSmall below above, pages]

/-- The rows of a page, counted from zero, when pages have a number of rows. -/
def pageRows (all : List Row) (size index : Nat) : List Row :=
  (all.drop (index * size)).take size

theorem length_pageRows (all : List Row) (size index : Nat) :
    (pageRows all size index).length = min size (all.length - index * size) := by
  simp [pageRows]

theorem flatMap_pageRows (all : List Row) (size pages : Nat) :
    (List.range pages).flatMap (pageRows all size) = all.take (pages * size) := by
  induction pages with
  | zero => simp
  | succ pages inductionHypothesis =>
      rw [List.range_succ, List.flatMap_append, inductionHypothesis, Nat.succ_mul, List.take_add]
      simp [pageRows]

/-- The pages up to a number are the rows in order; none of them is empty, and all but the last are
full. -/
structure Tiles (rowsOf : Nat → List Row) (pages size : Nat) (all : List Row) : Prop where
  whole : (List.range pages).flatMap rowsOf = all
  ne_nil : ∀ i < pages, rowsOf i ≠ []
  full : ∀ i, i + 1 < pages → (rowsOf i).length = size

theorem tiles_pageRows (all : List Row) {size : Nat} (sizePos : 0 < size) :
    Tiles (pageRows all size) (all.length ⌈/⌉ size) size all where
  whole := by
    rw [flatMap_pageRows]
    exact List.take_of_length_le ((ceilDiv_le_iff sizePos).mp le_rfl)
  ne_nil := by
    intro i isPage
    have inside := mt (ceilDiv_le_iff sizePos).mpr isPage.not_ge
    rw [ne_eq, ← List.length_eq_zero_iff, length_pageRows]
    omega
  full := by
    intro i notLast
    have inside := mt (ceilDiv_le_iff sizePos).mpr notLast.not_ge
    rw [Nat.add_mul, Nat.one_mul] at inside
    rw [length_pageRows]
    omega

namespace Store

variable {database : Database} {query : Query} {all : List Row}

theorem count_eq_length (executed : rows database query = .ok all) :
    count database query = .ok all.length := by
  obtain ⟨restrictionsTaken, -, -⟩ := rows_eq_ok_iff.mp executed
  rw [(rows_perm_select executed).length_eq]
  simp [count, restrictionsTaken, bind, Except.bind]

theorem paginate_eq_ok_iff (executed : rows database query = .ok all)
    (few : all.length < twoTo 53) {size : Nat} (sizePos : 0 < size) (sizeWord : isWord size = true)
    (serialize : Row → Value) (number : Int) (envelope : Envelope) :
    paginate database query ⟨number, size⟩ serialize = .ok envelope ↔
      isWord (Page.offset ⟨number, size⟩) = true ∧
        envelope = ⟨((all.drop (Page.offset ⟨number, size⟩).toNat).take size).map serialize,
          all.length, ⟨number, size⟩, (all.length ⌈/⌉ size : Nat)⟩ := by
  simp only [paginate, slice, bind_eq_ok_iff, count_eq_length executed, executed,
    Except.ok.injEq, exists_eq_left', Page.count_eq_ceilDiv few sizePos sizeWord, sizeWord,
    Bool.true_and]
  constructor
  · rintro ⟨found, sliced, rfl⟩
    split at sliced
    · next offsetWord =>
        obtain rfl : _ = found := by simpa using sliced
        exact ⟨offsetWord, rfl⟩
    · simp [giveUp] at sliced
  · rintro ⟨offsetWord, rfl⟩
    exact ⟨_, if_pos offsetWord, rfl⟩

end Store

/-- The pages of a query tile its rows.  Their number is the least that holds all rows, every page
tells it with the number of rows, and pages after it are empty. -/
theorem paginate_tiles {database : Database} {query : Query} {all : List Row}
    (executed : rows database query = .ok all) (few : all.length < twoTo 53) {perPage : Int}
    (positive : 1 ≤ perPage) (sizeWord : isWord perPage = true) (serialize : Row → Value) :
    ∃ pages : Nat, IsLeast {count : Nat | (all.length : Int) ≤ count * perPage} pages ∧
      (∀ number envelope, paginate database query ⟨number, perPage⟩ serialize = .ok envelope →
        envelope.total = all.length ∧ envelope.totalPages = pages) ∧
      (∃ rowsOf, Tiles rowsOf pages perPage.toNat all ∧ ∀ i < pages, ∃ envelope,
        paginate database query ⟨i + 1, perPage⟩ serialize = .ok envelope ∧
          envelope.data = (rowsOf i).map serialize) ∧
      ∀ number : Int, pages < number → isWord (Page.offset ⟨number, perPage⟩) = true →
        ∃ envelope, paginate database query ⟨number, perPage⟩ serialize = .ok envelope ∧
          envelope.data = [] := by
  obtain ⟨size, rfl⟩ := Int.eq_ofNat_of_zero_le (by omega : 0 ≤ perPage)
  have sizePos : 0 < size := by omega
  have envelopeOf := paginate_eq_ok_iff executed few sizePos sizeWord serialize
  have offset (i : Nat) : Page.offset ⟨i + 1, size⟩ = ((i * size : Nat) : Int) := by
    simp [Page.offset]
  refine ⟨all.length ⌈/⌉ size, ?_, ?_, ⟨_, tiles_pageRows all sizePos, ?_⟩, ?_⟩
  · constructor
    · have enough : all.length ≤ all.length ⌈/⌉ size * size := (ceilDiv_le_iff sizePos).mp le_rfl
      exact_mod_cast enough
    · intro count enough
      apply (ceilDiv_le_iff sizePos).mpr
      exact_mod_cast enough
  · intro number envelope paginated
    obtain ⟨-, rfl⟩ := (envelopeOf number envelope).mp paginated
    exact ⟨rfl, rfl⟩
  · intro i isPage
    have inside := mt (ceilDiv_le_iff sizePos).mpr isPage.not_ge
    have offsetWord : isWord (Page.offset ⟨i + 1, size⟩) = true := by
      have bound : wordBound = 1024 * twoTo 53 := by decide
      rw [offset, isWord_iff]
      omega
    refine ⟨_, (envelopeOf _ _).mpr ⟨offsetWord, rfl⟩, ?_⟩
    simp only [offset, Int.toNat_natCast, pageRows]
  · intro number later offsetWord
    refine ⟨_, (envelopeOf _ _).mpr ⟨offsetWord, rfl⟩, ?_⟩
    obtain ⟨i, rfl⟩ : ∃ i : Nat, number = i + 1 := ⟨(number - 1).toNat, by omega⟩
    have past : all.length ≤ i * size := (ceilDiv_le_iff sizePos).mp (by omega)
    simp only [offset, Int.toNat_natCast, List.drop_eq_nil_of_le past, List.take_nil, List.map_nil]

/-- Five posts on pages of two: the fourth page is empty. -/
theorem paginate_tiles_posts :
    ∃ envelope,
      paginate Sample.database ⟨Sample.post, [], []⟩ ⟨4, 2⟩ (Sample.wholeRow Sample.post) =
        .ok envelope ∧
      envelope.total = 5 ∧ envelope.totalPages = 3 ∧ envelope.data = [] := by
  let query : Query := ⟨Sample.post, [], []⟩
  have executed : rows Sample.database query = .ok (sorted Sample.database query) :=
    rows_eq_ok_iff.mpr ⟨rfl, rfl, rfl⟩
  have five : (sorted Sample.database query).length = 5 := by
    rw [(rows_perm_select executed).length_eq]
    rfl
  obtain ⟨pages, least, sizes, -, later⟩ := paginate_tiles executed
    (by rw [five]; decide) (by decide : (1 : Int) ≤ 2) (by decide) (Sample.wholeRow Sample.post)
  have three : pages = 3 := by
    apply least.unique
    rw [five]
    constructor
    · simp
    · intro count (enough : ((5 : Nat) : Int) ≤ count * 2)
      omega
  obtain ⟨envelope, paginated, noData⟩ := later 4 (by omega) (by decide)
  obtain ⟨total, totalPages⟩ := sizes 4 envelope paginated
  exact ⟨envelope, paginated, by omega, by omega, noData⟩

end GridQuery
