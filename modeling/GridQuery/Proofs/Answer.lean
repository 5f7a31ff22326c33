import GridQuery.Proofs.Acceptance
import GridQuery.Proofs.Declared
import GridQuery.Sample.Endpoints

/-!
How a tolerant endpoint answers.  The boundary refuses a request that is
malformed, what it accepts is decoded, and neither a declared filter nor the
store refuses an item: so an endpoint without callbacks never answers that the
query could not be composed.
-/

namespace GridQuery

open Boundary

section Rejections

variable {First Second : Type}

/-- A computation that may give up but refuses no item of a request. -/
def NeverRejects (outcome : Outcome First) : Prop :=
  ∀ error, outcome ≠ .error (.rejected error)

theorem neverRejects_ok (result : First) : NeverRejects (.ok result) := by
  simp [NeverRejects]

theorem neverRejects_giveUp (fault : Fault) : NeverRejects (giveUp fault : Outcome First) := by
  simp [NeverRejects, giveUp]

theorem NeverRejects.bind {first : Outcome First} {second : First → Outcome Second}
    (never : NeverRejects first) (later : ∀ result, NeverRejects (second result)) :
    NeverRejects (first >>= second) := by
  intro error rejected
  rcases bind_eq_error_iff.mp rejected with here | ⟨result, -, there⟩
  · exact never error here
  · exact later result error there

end Rejections

namespace Store

variable {database : Database} {query : Query}

theorem checkRestrictions_neverRejects : NeverRejects (checkRestrictions query) := by
  unfold checkRestrictions
  split
  · exact neverRejects_giveUp _
  · split
    · exact neverRejects_giveUp _
    · split
      · exact neverRejects_giveUp _
      · exact neverRejects_ok _

theorem checkOrder_neverRejects : NeverRejects (checkOrder query) := by
  unfold checkOrder
  split
  · exact neverRejects_ok _
  · exact neverRejects_giveUp _

theorem slice_neverRejects (offset limit : Int) :
    NeverRejects (slice database query offset limit) := by
  apply NeverRejects.bind
  · apply checkRestrictions_neverRejects.bind
    intro _
    apply checkOrder_neverRejects.bind
    intro _
    exact neverRejects_ok _
  · intro all
    split
    · exact neverRejects_ok _
    · exact neverRejects_giveUp _

theorem count_neverRejects (total perPage : Int) : NeverRejects (Page.count total perPage) := by
  unfold Page.count
  split
  · exact neverRejects_ok _
  · split
    · exact neverRejects_ok _
    · exact neverRejects_giveUp _

theorem paginate_neverRejects (page : Page) (serialize : Row → Value) :
    NeverRejects (paginate database query page serialize) := by
  apply NeverRejects.bind
  · exact checkRestrictions_neverRejects.bind fun _ => neverRejects_ok _
  · intro total
    apply (slice_neverRejects _ _).bind
    intro rows
    exact (count_neverRejects _ _).bind fun _ => neverRejects_ok _

end Store

theorem CustomFilter.apply_neverRejects {context : Context} {query : Query} {request : Members}
    {filters : List (String × CustomFilter)} (tolerant : context.options.strict = false)
    (noCallbacks : ∀ declared ∈ filters, declared.2.callback = none) :
    NeverRejects (apply context query request filters) := by
  rw [apply_of_tolerant tolerant noCallbacks]
  split
  · exact neverRejects_giveUp _
  · exact neverRejects_ok _

theorem TableParams.Decodes.neverRejects {params : TableParams} (decodes : params.Decodes)
    {context : Context} (tolerant : context.options.strict = false) (query : Query)
    (choice : Value) : NeverRejects (Compose.request context query choice params.toRequest) := by
  intro error rejected
  rcases Compose.cause_of_request tolerant rejected with ⟨cause, malformed, -⟩ | ⟨_, _, impossible⟩
  · cases malformed with
    | filters undecodable => exact decodes.filters.accepted _ undecodable
    | searchFields searched unchosen undecodable =>
        obtain ⟨names, decoded⟩ := decodes.searchFields
        simp [decoded] at undecodable
  · simp at impossible

namespace Endpoint

/-- A query string with filters or search fields that cannot be decoded, with an unknown sort order
or with a number that is none. -/
inductive FailsByFormat (parameters : QueryString.Parameters) : Prop
  | filters {raw : String} {error : QueryError} (given : lastValue? parameters "filters" = some raw)
      (undecodable : Clause.filters (.str raw) = reject error)
  | searchFields {error : QueryError}
      (undecodable : Clause.searchFields (QueryString.listParameter
        ((QueryString.valuesOf parameters "globalFilterFields").map .str)) = .error error)
  | order {raw : String} (given : lastValue? parameters "sortOrder" = some raw)
      (unknown : TableParams.orderWord (.str raw) ∉ TableParams.orderWords)
  | number (bad : badNumbers parameters ≠ [])

variable {endpoint : Endpoint} {settings : Settings} {registry : Registry} {database : Database}
  {parameters : QueryString.Parameters}

theorem compose_neverRejects (tolerant : endpoint.options.strict = false)
    (noCallbacks : ∀ declared ∈ endpoint.filters, declared.2.callback = none)
    {params : TableParams} (decodes : params.Decodes) :
    NeverRejects (endpoint.compose settings registry parameters params) := by
  apply (CustomFilter.apply_neverRejects tolerant noCallbacks).bind
  intro filtered
  exact decodes.neverRejects tolerant filtered endpoint.searchFields

theorem status_answer_ne (tolerant : endpoint.options.strict = false)
    (noCallbacks : ∀ declared ∈ endpoint.filters, declared.2.callback = none) {response : Response}
    (answered : endpoint.answer settings registry database parameters = .ok response) :
    response.status ≠ 400 := by
  unfold answer at answered
  split at answered
  · split at answered
    · obtain rfl : _ = response := by simpa using answered
      simp [Response.status]
    · next params checked =>
        split at answered
        · next error rejected =>
            have decodes := TableParams.decodes_of_check checked
            exact absurd rejected (compose_neverRejects tolerant noCallbacks decodes error)
        · simp at answered
        · split at answered
          · obtain rfl : _ = response := by simpa using answered
            simp [Response.status]
          · next error rejected =>
              exact absurd rejected (Store.paginate_neverRejects _ _ error)
          · simp at answered
  · obtain rfl : _ = response := by simpa using answered
    simp [Response.status]

theorem lookup_named {Given : Type} (read? : String → Option Given) (form : Given → Value)
    (names : List String) (key : String) :
    (names.filterMap fun name => (read? name).map fun given => (name, form given)).lookup key =
      if key ∈ names then (read? key).map form else none := by
  induction names with
  | nil => simp
  | cons name rest inductionHypothesis =>
      by_cases same : key = name
      · subst same
        cases read : read? key with
        | none => simp [read, inductionHypothesis]
        | some given => simp [read]
      · have other : (key == name) = false := by simpa using same
        cases read : read? name with
        | none => simp [read, inductionHypothesis, same]
        | some given => simp [read, List.lookup_cons, other, inductionHypothesis, same]

theorem value?_tableData_text {name raw : String} (text : name ∈ textNames)
    (given : lastValue? parameters name = some raw) :
    (tableData parameters).value? name = some (.str raw) := by
  unfold tableData Members.value?
  rw [List.lookup_append, List.lookup_append, lookup_named, if_pos text, given]
  rfl

theorem value?_tableData_searchFields
    (given : QueryString.valuesOf parameters "globalFilterFields" ≠ []) :
    (tableData parameters).value? "globalFilterFields" =
      some (QueryString.listParameter
        ((QueryString.valuesOf parameters "globalFilterFields").map .str)) := by
  unfold tableData Members.value?
  rw [List.lookup_append, List.lookup_append, lookup_named, if_neg (by decide)]
  simp [given]

theorem listParameter_eq (values : List Value) :
    (∃ only, QueryString.listParameter values = .str only) ∨
      QueryString.listParameter values = .list values := by
  unfold QueryString.listParameter
  split
  · split
    · exact .inl ⟨_, rfl⟩
    · exact .inr rfl
  · exact .inr rfl

theorem text_of_undecodable {values : List Value} {error : QueryError}
    (undecodable : Clause.searchFields (QueryString.listParameter values) = .error error) :
    ∃ only, QueryString.listParameter values = .str only := by
  rcases listParameter_eq values with text | list
  · exact text
  · have decoded : Clause.searchFields (.list values) = .ok (values.filterMap Clause.nameOf?) := rfl
    rw [list, decoded] at undecodable
    simp at undecodable

theorem not_checked_of_failsByFormat (fails : FailsByFormat parameters)
    (numbers : badNumbers parameters = []) (params : TableParams) :
    TableParams.check settings (tableData parameters) ≠ .ok params := by
  intro checked
  obtain ⟨filtersAccepted, orderAccepted, fieldsAccepted⟩ := TableParams.check_eq_ok checked
  -- A text that passes its check is kept as it is, so it is the very text that does not decode.
  cases fails with
  | filters given undecodable =>
      obtain ⟨accepted, checks⟩ := check_of_fieldOr filtersAccepted
        (value?_tableData_text (by decide) given) rfl
      obtain rfl := TableParams.checkFilters_text checks
      exact (TableParams.decodes_of_checkFilters checks).accepted _ undecodable
  | searchFields undecodable =>
      obtain ⟨only, text⟩ := text_of_undecodable undecodable
      have given : QueryString.valuesOf parameters "globalFilterFields" ≠ [] := by
        intro none
        simp [none, QueryString.listParameter] at text
      obtain ⟨accepted, checks⟩ := check_of_fieldOr fieldsAccepted
        (text ▸ value?_tableData_searchFields given) rfl
      obtain rfl := TableParams.checkSearchFields_text checks
      obtain ⟨names, decoded⟩ := TableParams.decodes_of_checkSearchFields checks
      rw [text, decoded] at undecodable
      simp at undecodable
  | order given unknown =>
      obtain ⟨accepted, checks⟩ := check_of_fieldOr orderAccepted
        (value?_tableData_text (by decide) given) rfl
      exact unknown (TableParams.checkSortOrder_text checks)
  | number bad => exact bad numbers

theorem status_answer_of_failsByFormat (fails : FailsByFormat parameters) :
    ∃ response, endpoint.answer settings registry database parameters = .ok response ∧
      response.status = 422 := by
  unfold answer
  cases numbers : badNumbers parameters with
  | cons number others => exact ⟨_, rfl, rfl⟩
  | nil =>
      cases checked : TableParams.check settings (tableData parameters) with
      | refused issues => exact ⟨_, rfl, rfl⟩
      | ok params => exact absurd checked (not_checked_of_failsByFormat fails numbers params)

end Endpoint

end GridQuery
