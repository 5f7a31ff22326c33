import GridQuery.Boundary.Params
import GridQuery.Proofs.Containment

/-!
What the boundary accepts, composition decodes.  Both read the payloads of a
request on their own, and the boundary reads them more strictly: a text that it
lets through is JSON of the right shape, a sort order is one of the known
words, and the numbers of a page are integers.
-/

namespace GridQuery

open Boundary

namespace Checked

variable {First Second : Type}

theorem bind_eq_ok_iff {checked : Checked First} {next : First → Checked Second}
    {result : Second} :
    (checked >>= next) = .ok result ↔
      ∃ intermediate, checked = .ok intermediate ∧ next intermediate = .ok result := by
  cases checked <;> simp [bind]

theorem map_eq_ok_iff {form : First → Second} {checked : Checked First} {result : Second} :
    form <$> checked = .ok result ↔ ∃ first, checked = .ok first ∧ form first = result := by
  cases checked <;> simp [Functor.map]

theorem within_eq_ok_iff {step : PlaceStep} {checked : Checked First} {result : First} :
    checked.within step = .ok result ↔ checked = .ok result := by
  cases checked <;> simp [within]

theorem also_eq_ok_iff {form : Checked (First → Second)} {checked : Checked First}
    {result : Second} :
    form.also checked = .ok result ↔
      ∃ f first, form = .ok f ∧ checked = .ok first ∧ f first = result := by
  cases form <;> cases checked <;> simp [also]

@[simp] theorem issue_ne_ok {kind : IssueKind} {result : First} :
    (issue kind : Checked First) ≠ .ok result := by
  simp [issue]

end Checked

namespace Boundary

variable {Result : Type} {data : Members} {names : List String} {check : Value → Checked Result}
  {result : Option Result}

theorem optional_eq_ok_iff {value : Value} :
    optional check value = .ok result ↔
      value.isNull = true ∧ result = none ∨
        value.isNull = false ∧ ∃ checked, check value = .ok checked ∧ result = some checked := by
  unfold optional
  cases value.isNull with
  | true => simp [eq_comm]
  | false => simp [Checked.map_eq_ok_iff, eq_comm]

theorem fieldOr_eq_ok (accepted : fieldOr data names none (optional check) = .ok result) :
    result = none ∨ ∃ value checked, check value = .ok checked ∧ result = some checked := by
  unfold fieldOr at accepted
  cases given : given? data names with
  | none => exact .inl (by simpa [given, eq_comm] using accepted)
  | some member =>
      rw [given] at accepted
      rcases optional_eq_ok_iff.mp (Checked.within_eq_ok_iff.mp accepted) with ⟨-, left⟩ |
        ⟨-, checked, checks, holds⟩
      · exact .inl left
      · exact .inr ⟨_, checked, checks, holds⟩

theorem check_of_fieldOr {name : String} {value : Value}
    (accepted : fieldOr data (name :: names) none (optional check) = .ok result)
    (given : data.value? name = some value) (notNull : value.isNull = false) :
    ∃ checked, check value = .ok checked := by
  simp only [fieldOr, given?, given] at accepted
  rcases optional_eq_ok_iff.mp (Checked.within_eq_ok_iff.mp accepted) with ⟨null, -⟩ |
    ⟨-, checked, checks, -⟩
  · simp [notNull] at null
  · exact ⟨checked, checks⟩

end Boundary

theorem Clause.descending_of_sort? {request : Members} {clause : SortClause}
    (sorted : sort? request = .ok (some clause)) :
    isDescending (request.value "sortOrder") = .ok clause.descending := by
  unfold sort? at sorted
  split at sorted
  · split at sorted
    · simp at sorted
    · obtain ⟨descending, read, made⟩ := bind_eq_ok_iff.mp sorted
      obtain rfl := Option.some.inj (Except.ok.inj made)
      exact read
  · simp at sorted

theorem Page.bounds_of_ofRequest {options : QueryOptions} {request : Members} {page : Page}
    (paged : ofRequest options request = .ok page) (some : 1 ≤ options.maxPerPage) :
    1 ≤ page.number ∧ 1 ≤ page.perPage ∧ page.perPage ≤ options.maxPerPage := by
  have clamped (size : Int) : 1 ≤ clamp size 1 options.maxPerPage ∧
      clamp size 1 options.maxPerPage ≤ options.maxPerPage := by
    unfold clamp
    omega
  simp only [ofRequest, GridQuery.bind_eq_ok_iff] at paged
  obtain ⟨first, -, rows, -, rest⟩ := paged
  split at rest
  · next first rows =>
      obtain rfl : ofRows options first rows = page := by simpa using rest
      refine ⟨?_, clamped _⟩
      have before : 0 ≤ max 0 first / max 1 rows := Int.ediv_nonneg (by omega) (by omega)
      simp only [ofRows]
      omega
  · simp only [GridQuery.bind_eq_ok_iff] at rest
    obtain ⟨number, -, perPage, -, made⟩ := rest
    obtain rfl : ofNumber options number perPage = page := by simpa using made
    exact ⟨Int.le_max_left 1 _, clamped _⟩

namespace TableParams

variable {value accepted : Value}

theorem jsonText_eq_ok {isRight : Value → Bool} {isJson isCollection : ContentRule} {s : String}
    (checked : jsonText isRight isJson isCollection s = .ok accepted) :
    accepted = .str s ∧ ∃ decoded, Json.ofText s = .ok decoded ∧
      (decoded = .null ∨ isRight decoded = true) := by
  unfold jsonText at checked
  split at checked
  · simp at checked
  · next decoded reads =>
      split at checked
      · next right =>
          obtain rfl : Value.str s = accepted := by simpa using checked
          refine ⟨rfl, decoded, reads, ?_⟩
          cases decoded <;> simp_all [Value.isNull]
      · simp at checked

/-- JSON text is decoded as a parameter too, unless it is blank. -/
theorem decode_of_ofText {parameter s : String} {decoded : Value}
    (reads : Json.ofText s = .ok decoded) :
    Clause.decode parameter (.str s) = .ok .null ∨
      Clause.decode parameter (.str s) = .ok decoded := by
  by_cases blank : Text.isBlankText s = true
  · exact .inl (by simp [Clause.decode, blank, mapError_ok])
  · exact .inr (by simp [Clause.decode, blank, reads, mapError_ok])

/-- Filters that are read unless they hold a huge integer, as JSON values do not. -/
structure FiltersDecode (raw : Value) : Prop where
  accepted : ∀ error, Clause.filters raw ≠ reject error
  read : ¬ raw.HoldsHuge → ∃ clauses, Clause.filters raw = .ok clauses

theorem filtersDecode_of_hasShape {raw decoded : Value}
    (decodes : Clause.decode "filters" raw = .ok decoded) (shape : Clause.HasShape decoded) :
    FiltersDecode raw := by
  have opened : Clause.filters raw = Clause.ofDecoded decoded := by
    rw [Clause.filters, decodes]
    rfl
  have never (error : QueryError) : Clause.filters raw ≠ reject error := by
    rw [opened]
    intro refused
    rcases Clause.ofDecoded_eq_error_iff.mp refused with ⟨shapeless, -⟩ | ⟨-, impossible⟩
    · exact shapeless shape
    · simp at impossible
  refine ⟨never, fun small => ?_⟩
  cases read : Clause.filters raw with
  | ok clauses => exact ⟨clauses, rfl⟩
  | error failure =>
      cases failure with
      | rejected error => exact absurd read (never error)
      | fault fault =>
          exact absurd (Clause.filters_eq_giveUp_iff.mp read).1.holdsHuge small

theorem decodes_of_checkFilters (checked : checkFilters value = .ok accepted) :
    FiltersDecode accepted := by
  unfold checkFilters at checked
  split at checked
  · obtain rfl : _ = accepted := by simpa using checked
    exact filtersDecode_of_hasShape rfl .object
  · obtain rfl : _ = accepted := by simpa using checked
    exact filtersDecode_of_hasShape rfl .list
  · obtain rfl : _ = accepted := by simpa using checked
    exact filtersDecode_of_hasShape rfl .list
  · obtain rfl : _ = accepted := by simpa using checked
    exact filtersDecode_of_hasShape rfl .list
  · split at checked
    · obtain ⟨rfl, decoded, reads, right⟩ := jsonText_eq_ok checked
      rcases decode_of_ofText reads with decode | decode
      · exact filtersDecode_of_hasShape decode .null
      · rcases right with rfl | right
        · exact filtersDecode_of_hasShape decode .null
        · cases decoded with
          | object => exact filtersDecode_of_hasShape decode .object
          | list => exact filtersDecode_of_hasShape decode .list
          | _ => simp [isCollection] at right
    · simp at checked

theorem decodes_of_checkSearchFields (checked : checkSearchFields value = .ok accepted) :
    ∃ names, Clause.searchFields accepted = .ok names := by
  unfold checkSearchFields at checked
  split at checked
  · obtain ⟨rfl, decoded, reads, right⟩ := jsonText_eq_ok checked
    rcases decode_of_ofText reads with decode | decode
    · exact ⟨[], by rw [Clause.searchFields, decode]; rfl⟩
    · rw [Clause.searchFields, decode]
      rcases right with rfl | right
      · exact ⟨_, rfl⟩
      · cases decoded with
        | list => exact ⟨_, rfl⟩
        | _ => simp [isList] at right
  · split at checked
    · obtain rfl : _ = accepted := by simpa using checked
      exact ⟨_, rfl⟩
    · simp at checked

theorem checkFilters_text {s : String} (checked : checkFilters (.str s) = .ok accepted) :
    accepted = .str s :=
  (jsonText_eq_ok checked).1

theorem checkSearchFields_text {s : String} (checked : checkSearchFields (.str s) = .ok accepted) :
    accepted = .str s :=
  (jsonText_eq_ok checked).1

/-- The normalized spelling of a sort order; an order that is not written has an empty one. -/
def orderWord (order : Value) : String :=
  Text.fold (Text.strip (order.text?.getD ""))

theorem isDescending_eq {order : Value} (notNull : order.isNull = false)
    (written : order.text? ≠ none) :
    Clause.isDescending order = .ok (Clause.descendingWords.contains (orderWord order)) := by
  obtain ⟨text, read⟩ := Option.ne_none_iff_exists'.mp written
  have given : order.textOrEmpty = .ok text := by
    cases order with
    | null => simp [Value.isNull] at notNull
    | _ => exact Value.text_eq_ok_iff.mpr read
  simp [Clause.isDescending, orderWord, given, read, bind, Except.bind]

def ascendingWords : List String := ["asc", "1"]

theorem isNull_of_textOrInteger (read : textOrInteger value = .ok accepted) :
    accepted.isNull = false := by
  unfold textOrInteger at read
  split at read
  · obtain rfl : _ = accepted := by simpa using read
    rfl
  · obtain rfl : _ = accepted := by simpa using read
    rfl
  · split at read
    · obtain rfl : _ = accepted := by simpa using read
      rfl
    · obtain rfl : _ = accepted := by simpa using read
      rfl
    · simp at read

theorem known_of_checkSortOrder (checked : checkSortOrder value = .ok accepted) :
    accepted.isNull = false ∧ accepted.text? ≠ none ∧
      (orderWord accepted ∈ Clause.descendingWords ∨ orderWord accepted ∈ ascendingWords) := by
  obtain ⟨order, read, known⟩ := Checked.bind_eq_ok_iff.mp checked
  split at known
  · simp at known
  next text written =>
    split at known
    · next isKnown =>
        obtain rfl : order = accepted := by simpa using known
        refine ⟨isNull_of_textOrInteger read, by simp [written], ?_⟩
        rw [List.contains_iff_mem] at isKnown
        simp only [orderWords, List.mem_cons, List.not_mem_nil, or_false] at isKnown
        rcases isKnown with word | word | word | word <;>
          simp [orderWord, written, word, Clause.descendingWords, ascendingWords]
    · simp at known

theorem checkSortOrder_text {s : String} (checked : checkSortOrder (.str s) = .ok accepted) :
    orderWord (.str s) ∈ orderWords := by
  obtain ⟨order, read, known⟩ := Checked.bind_eq_ok_iff.mp checked
  obtain rfl : Value.str s = order := by simpa [textOrInteger] using read
  dsimp only [Value.text?_str] at known
  split at known
  · next isKnown => exact List.contains_iff_mem.mp isKnown
  · simp at known

/-- Parameters that composition can decode, whatever its options are. -/
structure Decodes (params : TableParams) : Prop where
  filters : FiltersDecode (params.toRequest.value "filters")
  searchFields : ∃ names,
    Clause.searchFields (params.toRequest.value "globalFilterFields") = .ok names
  sort : ∃ clause?, Clause.sort? params.toRequest = .ok clause?
  descending : ∀ clause, Clause.sort? params.toRequest = .ok (some clause) →
    (clause.descending = true ↔
      ∃ order, params.sortOrder = some order ∧ orderWord order ∈ Clause.descendingWords)
  ascending : ∀ clause, Clause.sort? params.toRequest = .ok (some clause) →
    clause.descending = false →
    ∀ order, params.sortOrder = some order → orderWord order ∈ ascendingWords
  page : ∀ options, ∃ page, Page.ofRequest options params.toRequest = .ok page ∧
    (1 ≤ options.maxPerPage →
      1 ≤ page.number ∧ 1 ≤ page.perPage ∧ page.perPage ≤ options.maxPerPage)

section Requests

theorem lookup_entry (name key : String) (value : Option Value) :
    (value.toList.map fun value => (name, value)).lookup key =
      if key = name then value else none := by
  cases value with
  | none => simp
  | some value =>
      by_cases same : key = name
      · simp [same]
      · have other : (key == name) = false := by simpa using same
        simp [List.lookup_cons, same, other]

variable (params : TableParams)

theorem value_filters : params.toRequest.value "filters" = params.filters.getD .null := by
  simp [toRequest, Members.value, Members.value?, List.lookup_append, lookup_entry]

theorem value_sortOrder : params.toRequest.value "sortOrder" = params.sortOrder.getD .null := by
  simp [toRequest, Members.value, Members.value?, List.lookup_append, lookup_entry]

theorem value_searchFields :
    params.toRequest.value "globalFilterFields" = params.searchFields.getD .null := by
  simp [toRequest, Members.value, Members.value?, List.lookup_append, lookup_entry]

theorem value_page {name : String} (consulted : Page.Consults params.toRequest name) :
    ∃ n : Option Int, params.toRequest.value name = (n.map Value.int).getD .null := by
  have member : name ∈ ["first", "rows", "page", "per_page"] := by
    cases consulted with
    | row row => exact List.mem_append_left ["page", "per_page"] row
    | page page noRows => exact List.mem_append_right ["first", "rows"] page
  simp only [toRequest, Members.value, Members.value?, List.lookup_append, lookup_entry]
  simp only [List.mem_cons, List.not_mem_nil, or_false] at member
  rcases member with rfl | rfl | rfl | rfl
  · exact ⟨params.first, by simp⟩
  · exact ⟨params.rows, by simp⟩
  · exact ⟨params.page, by simp⟩
  · exact ⟨params.perPage, by simp⟩

end Requests

theorem check_eq_ok {settings : Settings} {data : Members} {params : TableParams}
    (checked : check settings data = .ok params) :
    fieldOr data ["filters"] none (optional checkFilters) = .ok params.filters ∧
      fieldOr data ["sortOrder", "sort_order"] none (optional checkSortOrder) =
        .ok params.sortOrder ∧
      fieldOr data ["globalFilterFields", "global_filter_fields"] none
        (optional checkSearchFields) = .ok params.searchFields := by
  simp only [check, Checked.also_eq_ok_iff] at checked
  obtain ⟨_, perPage, ⟨_, page, ⟨_, rows, ⟨_, first, ⟨_, searchFields, ⟨_, searchTerm,
    ⟨_, sortOrder, ⟨_, sortField, ⟨_, filters, made, acceptedFilters, rfl⟩, -, rfl⟩, acceptedOrder,
    rfl⟩, -, rfl⟩, acceptedFields, rfl⟩, -, rfl⟩, -, rfl⟩, -, rfl⟩, -, rfl⟩ := checked
  obtain rfl : TableParams.mk = _ := by simpa using made
  exact ⟨acceptedFilters, acceptedOrder, acceptedFields⟩

theorem decodes_of_check {settings : Settings} {data : Members} {params : TableParams}
    (checked : check settings data = .ok params) : params.Decodes := by
  obtain ⟨filtersAccepted, orderAccepted, fieldsAccepted⟩ := check_eq_ok checked
  have known (order : Value) (given : params.sortOrder = some order) :
      order.isNull = false ∧ order.text? ≠ none ∧
        (orderWord order ∈ Clause.descendingWords ∨ orderWord order ∈ ascendingWords) := by
    rcases fieldOr_eq_ok orderAccepted with none | ⟨value, accepted, checks, holds⟩
    · simp [none] at given
    · obtain rfl : order = accepted := by simpa [given] using holds
      exact known_of_checkSortOrder checks
  have read : Clause.isDescending (params.toRequest.value "sortOrder") =
      .ok (params.sortOrder.any fun order =>
        Clause.descendingWords.contains (orderWord order)) := by
    rw [value_sortOrder]
    cases given : params.sortOrder with
    | none => decide +kernel
    | some order =>
        obtain ⟨notNull, written, -⟩ := known order given
        rw [Option.getD_some, Option.any_some]
        exact isDescending_eq notNull written
  refine ⟨?_, ?_, ?_, ?_, ?_, ?_⟩
  · rw [value_filters]
    rcases fieldOr_eq_ok filtersAccepted with none | ⟨value, accepted, checks, holds⟩
    · rw [none]
      exact filtersDecode_of_hasShape rfl .null
    · rw [holds]
      exact decodes_of_checkFilters checks
  · rw [value_searchFields]
    rcases fieldOr_eq_ok fieldsAccepted with none | ⟨value, accepted, checks, holds⟩
    · exact ⟨[], by rw [none]; rfl⟩
    · rw [holds]
      exact decodes_of_checkSearchFields checks
  · cases sorted : Clause.sort? params.toRequest with
    | ok clause => exact ⟨clause, rfl⟩
    | error failure =>
        obtain ⟨⟨-, huge⟩, -⟩ := Clause.sort?_eq_error_iff.mp sorted
        rw [value_sortOrder] at huge
        cases given : params.sortOrder with
        | none => rw [given] at huge; cases huge
        | some order =>
            rw [given] at huge
            exact absurd (Value.text?_eq_none_iff.mpr huge) (known order given).2.1
  · intro clause sorted
    rw [← Except.ok.inj (read.symm.trans (Clause.descending_of_sort? sorted))]
    cases params.sortOrder <;> simp
  · intro clause sorted ascending order given
    rw [← Except.ok.inj (read.symm.trans (Clause.descending_of_sort? sorted)), given] at ascending
    rcases (known order given).2.2 with descends | ascends
    · simp [descends] at ascending
    · exact ascends
  · intro options
    cases paged : Page.ofRequest options params.toRequest with
    | ok page => exact ⟨page, rfl, Page.bounds_of_ofRequest paged⟩
    | error failure =>
        obtain ⟨-, name, consulted, infinite⟩ := Page.infinite_of_ofRequest paged
        obtain ⟨n, same⟩ := value_page params consulted
        rw [same] at infinite
        cases n <;> exact infinite.elim

end TableParams

end GridQuery
