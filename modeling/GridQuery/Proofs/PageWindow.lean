import GridQuery.Proofs.Acceptance

/-!
The page that a request names.  A first row and a number of rows, if both are
integers, name the window of that many rows that holds the row, and the page
number and size do not matter.  Otherwise neither of the two matters, and the
page is the one of the given number and size.
-/

namespace GridQuery

namespace Page

/-- A request that names its page by a first row and a number of rows. -/
def NamesRows (request : Members) : Prop :=
  ReadsInteger (request.value "first") ∧ ReadsInteger (request.value "rows")

/-- Of the windows of a size that begin at its multiples, the page is the only one that holds a row;
it begins with the row if the row is a multiple itself. -/
structure IsWindow (page : Page) (size row : Int) : Prop where
  perPage_eq : page.perPage = size
  dvd_offset : size ∣ page.offset
  offset_le : page.offset ≤ row
  lt_offset_add : row < page.offset + page.perPage
  unique : ∀ start, size ∣ start → start ≤ row → row < start + size → start = page.offset
  offset_eq : size ∣ row → page.offset = row

section

variable {options : QueryOptions} {request : Members} {page : Page} {first rows : Int}

theorem ofRequest_of_rows (readsFirst : readInt? (request.value "first") = .ok (some first))
    (readsRows : readInt? (request.value "rows") = .ok (some rows)) :
    ofRequest options request = .ok (ofRows options first rows) := by
  simp [ofRequest, readsFirst, readsRows, bind, Except.bind]

theorem exists_of_not_namesRows (noRows : ¬ NamesRows request)
    (returned : ofRequest options request = .ok page) :
    ∃ number perPage, readInt? (request.value "page") = .ok number ∧
      readInt? (request.value "per_page") = .ok perPage ∧
        page = ofNumber options number perPage := by
  simp only [ofRequest, bind_eq_ok_iff] at returned
  obtain ⟨first, readsFirst, rows, readsRows, rest⟩ := returned
  split at rest
  · exact absurd ⟨⟨_, readsFirst⟩, _, readsRows⟩ noRows
  · simp only [bind_eq_ok_iff, Except.ok.injEq] at rest
    obtain ⟨number, readsNumber, perPage, readsPerPage, rfl⟩ := rest
    exact ⟨number, perPage, readsNumber, readsPerPage, rfl⟩

/-- A window that begins at a multiple of its size and holds a row is found by division. -/
theorem eq_ediv_mul_of_window {size row start : Int} (sizePos : 0 < size) (aligned : size ∣ start)
    (below : start ≤ row) (above : row < start + size) : start = row / size * size := by
  obtain ⟨index, rfl⟩ := aligned
  rw [Int.mul_comm size index] at below above ⊢
  have atLeast : index ≤ row / size := (Int.le_ediv_iff_mul_le sizePos).mpr below
  have atMost : row / size < index + 1 := by
    rwa [Int.ediv_lt_iff_lt_mul sizePos, Int.add_mul, Int.one_mul]
  obtain rfl : index = row / size := by omega
  rfl

theorem isWindow_ofRows (fits : max 1 rows ≤ options.maxPerPage) :
    (ofRows options first rows).IsWindow (max 1 rows) (max 0 first) := by
  have sizePos : 0 < max 1 rows := by omega
  have perPage : (ofRows options first rows).perPage = max 1 rows := by
    simp only [ofRows, clamp]
    omega
  have offset : (ofRows options first rows).offset = max 0 first / max 1 rows * max 1 rows := by
    rw [Page.offset, perPage]
    simp [ofRows]
  have unique (start : Int) (aligned : max 1 rows ∣ start) (below : start ≤ max 0 first)
      (above : max 0 first < start + max 1 rows) : start = (ofRows options first rows).offset :=
    (eq_ediv_mul_of_window sizePos aligned below above).trans offset.symm
  constructor
  case perPage_eq => exact perPage
  case dvd_offset => exact offset ▸ Int.dvd_mul_left _ _
  case offset_le => exact offset ▸ Int.ediv_mul_le _ (by omega)
  case lt_offset_add =>
    have below := Int.lt_ediv_add_one_mul_self (max 0 first) sizePos
    rwa [Int.add_mul, Int.one_mul, ← offset, ← perPage] at below
  case unique => exact unique
  case offset_eq =>
    intro aligned
    exact (unique _ aligned (Int.le_refl _) (by omega)).symm

theorem offset_nonneg (number : 1 ≤ page.number) (perPage : 1 ≤ page.perPage) :
    0 ≤ page.offset :=
  Int.mul_nonneg (by omega) (by omega)

end

/-- A page that a request gets is within the bounds of the options.  If the first row and the number
of rows are integers, the page depends on nothing else, and unless there are more rows than a page
may have, it is their window.  Otherwise it has the given number and size, clamped, with a default
for what is no integer, and depends on no first row or number of rows that leaves one of them no
integer. -/
theorem ofRequest_names_page {options : QueryOptions} (nonempty : 1 ≤ options.maxPerPage)
    {request : Members} {page : Page} (returned : ofRequest options request = .ok page) :
    (1 ≤ page.number ∧ 1 ≤ page.perPage ∧ page.perPage ≤ options.maxPerPage ∧ 0 ≤ page.offset) ∧
    (∀ first rows, readInt? (request.value "first") = .ok (some first) →
      readInt? (request.value "rows") = .ok (some rows) →
      (∀ other : Members, other.value "first" = request.value "first" →
        other.value "rows" = request.value "rows" → ofRequest options other = .ok page) ∧
      (max 1 rows ≤ options.maxPerPage → page.IsWindow (max 1 rows) (max 0 first))) ∧
    (¬ NamesRows request →
      (∃ number perPage, readInt? (request.value "page") = .ok number ∧
        readInt? (request.value "per_page") = .ok perPage ∧
        page.number = max 1 (number.getD 1) ∧
        page.perPage = clamp (perPage.getD options.defaultPerPage) 1 options.maxPerPage) ∧
      ∀ (other : Members) (otherPage : Page), ¬ NamesRows other →
        other.value "page" = request.value "page" →
        other.value "per_page" = request.value "per_page" →
        ofRequest options other = .ok otherPage → otherPage = page) := by
  obtain ⟨numberPos, perPagePos, perPageMost⟩ := bounds_of_ofRequest returned nonempty
  refine ⟨⟨numberPos, perPagePos, perPageMost, offset_nonneg numberPos perPagePos⟩,
    fun first rows readsFirst readsRows => ?_, fun noRows => ?_⟩
  · have named : ofRows options first rows = page :=
      Except.ok.inj ((ofRequest_of_rows readsFirst readsRows).symm.trans returned)
    subst named
    refine ⟨fun other sameFirst sameRows => ?_, isWindow_ofRows⟩
    exact ofRequest_of_rows (sameFirst ▸ readsFirst) (sameRows ▸ readsRows)
  · obtain ⟨number, perPage, readsNumber, readsPerPage, rfl⟩ :=
      exists_of_not_namesRows noRows returned
    refine ⟨⟨number, perPage, readsNumber, readsPerPage, rfl, rfl⟩, ?_⟩
    intro other otherPage otherNoRows sameNumber samePerPage otherReturned
    obtain ⟨otherNumber, otherPerPage, otherReads, otherReadsPerPage, rfl⟩ :=
      exists_of_not_namesRows otherNoRows otherReturned
    rw [sameNumber, readsNumber] at otherReads
    rw [samePerPage, readsPerPage] at otherReadsPerPage
    cases otherReads
    cases otherReadsPerPage
    rfl

/-- Ten rows and the row 25 name the third page, whatever page is asked for; a number of rows that
is no integer leaves the page to its number and size, whatever the first row is. -/
theorem ofRequest_names_third_page :
    let byRows : Members := [("first", .str " 25"), ("rows", .str "1e1"), ("page", .str "inf")]
    let byNumber : Members := [("first", .int 25), ("rows", .str "ten"), ("page", .str "3"),
      ("per_page", .int 9999)]
    (∃ page, ofRequest {} byRows = .ok page ∧ page.IsWindow 10 25 ∧
      ofRequest {} (byRows.put "page" (.int 7)) = .ok page) ∧
    ∃ page, ofRequest {} byNumber = .ok page ∧ page.number = 3 ∧ page.perPage = 500 ∧
      ∀ other, ofRequest {} (byNumber.put "first" (.str "x")) = .ok other → other = page := by
  intro byRows byNumber
  have nonempty : 1 ≤ ({} : QueryOptions).maxPerPage := by decide
  constructor
  · have readsFirst : readInt? (byRows.value "first") = .ok (some 25) := by decide +kernel
    have readsRows : readInt? (byRows.value "rows") = .ok (some 10) := by decide +kernel
    have returned : ofRequest {} byRows = .ok (ofRows {} 25 10) :=
      ofRequest_of_rows readsFirst readsRows
    obtain ⟨-, rowsDecide, -⟩ := ofRequest_names_page nonempty returned
    obtain ⟨independent, window⟩ := rowsDecide 25 10 readsFirst readsRows
    exact ⟨_, returned, window (by decide), independent _ rfl rfl⟩
  · have unread : readInt? (.str "ten") = .ok none := by decide +kernel
    have noRows {request : Members} (given : request.value "rows" = .str "ten") :
        ¬ NamesRows request := by
      rintro ⟨-, rows, readsRows⟩
      simp [given, unread] at readsRows
    have returned : ofRequest {} byNumber = .ok ⟨3, 500⟩ := by decide +kernel
    obtain ⟨-, -, numberDecides⟩ := ofRequest_names_page nonempty returned
    obtain ⟨-, independent⟩ := numberDecides (noRows rfl)
    exact ⟨_, returned, rfl, rfl, fun other => independent _ other (noRows rfl) rfl rfl⟩

end Page

end GridQuery
