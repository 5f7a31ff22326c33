import GridQuery.Boundary.QueryString
import GridQuery.Proofs.Declared
import GridQuery.Proofs.DottedName
import GridQuery.Proofs.Exchange
import GridQuery.Proofs.Opposites
import GridQuery.Proofs.UserText
import GridQuery.Sample.Rows

/-!
Parameters that a query string repeats.  A name keeps all values that were given
for it, in their order, as one text or as a list; a declared filter for one of
some texts means the same by either, so it selects the rows that hold one of the
values, whatever stands between them.
-/

namespace GridQuery

open Store

theorem Cell.order_eq_text_iff {cell : Cell} {s : String} :
    order cell (text s) = .eq ↔ cell = text s := by
  cases cell with
  | text other => rw [order_text_eq_iff, text.injEq]
  | null | int | real | blob => simp [order, rank]

namespace QueryString

/-- The texts in the value of a parameter. -/
def texts : Value → List String
  | .str s => [s]
  | .list items => items.map fun item => item.text?.getD ""
  | _ => []

variable {parameters others : Parameters} {name : String}

theorem mem_names_iff : name ∈ names parameters ↔ name ∈ parameters.map (·.1) :=
  List.mem_eraseDups

theorem eraseDups_nodup (items : List String) : items.eraseDups.Nodup := by
  cases items with
  | nil => simp
  | cons item rest =>
      rw [List.eraseDups_cons, List.nodup_cons]
      constructor
      · simp [List.mem_eraseDups]
      · exact eraseDups_nodup _
termination_by items.length
decreasing_by
  have := List.length_filter_le (fun other => !other == item) rest
  simp only [List.length_cons]
  omega

theorem names_nodup : (names parameters).Nodup := eraseDups_nodup _

theorem mem_valuesOf_iff {value : String} :
    value ∈ valuesOf parameters name ↔ (name, value) ∈ parameters := by
  simp [valuesOf]

theorem valuesOf_eq_nil_iff : valuesOf parameters name = [] ↔ name ∉ parameters.map (·.1) := by
  simp [List.eq_nil_iff_forall_not_mem, mem_valuesOf_iff]

theorem texts_oneOrMany (values : List String) : texts (oneOrMany values) = values := by
  unfold oneOrMany
  split
  · rfl
  · simp [texts, Function.comp_def]

theorem oneOrMany_ne_null (values : List String) : oneOrMany values ≠ .null := by
  unfold oneOrMany
  split <;> simp

theorem lookup_grouped :
    (grouped parameters).lookup name =
      if name ∈ names parameters then some (oneOrMany (valuesOf parameters name)) else none := by
  unfold grouped
  induction names parameters with
  | nil => simp
  | cons first rest inductionHypothesis =>
      rw [List.map_cons, List.lookup_cons, inductionHypothesis]
      by_cases same : name = first
      · simp [same]
      · simp [beq_eq_false_iff_ne.mpr same, same]

theorem value_grouped_of_mem (occurs : name ∈ parameters.map (·.1)) :
    (grouped parameters).value name = oneOrMany (valuesOf parameters name) := by
  simp [Members.value, Members.value?, lookup_grouped, mem_names_iff.mpr occurs]

theorem value_grouped_of_not_mem (absent : name ∉ parameters.map (·.1)) :
    (grouped parameters).value name = .null := by
  simp [Members.value, Members.value?, lookup_grouped, mt mem_names_iff.mp absent]

theorem texts_value_grouped (name : String) :
    texts ((grouped parameters).value name) = (parameters.filter (·.1 = name)).map (·.2) := by
  by_cases occurs : name ∈ parameters.map (·.1)
  · rw [value_grouped_of_mem occurs, texts_oneOrMany]
    simp [valuesOf, beq_eq_decide]
  · have none : (parameters.filter (·.1 = name)).map (·.2) = [] := by
      simpa [valuesOf, beq_eq_decide] using valuesOf_eq_nil_iff.mpr occurs
    rw [value_grouped_of_not_mem occurs, none]
    rfl

end QueryString

namespace Store

theorem Parameter.ofValues?_texts (values : List String) :
    ofValues? .text (values.map .str) = some (values.map fun s => .ok (.text s)) := by
  have kind : sharedKind .text (values.map .str) = .text := by
    cases values <;> rfl
  rw [ofValues?_eq, beside, kind, List.map_map, List.mapM_map]
  exact List.mapM_pure

theorem amongValues_texts (cell : Cell) (values : List String) :
    amongValues .text cell (values.map .str) = isAmong cell (values.map .text) := by
  rw [amongValues, Parameter.ofValues?_texts, Option.getD_some, Parameter.cells, List.map_map,
    List.map_map]
  rfl

variable {database : Database} {environment : Environment} {field : Field}
  (ofText : field.column.kind = .text)

include ofText

theorem parameters?_among_texts (values : List String) :
    ∃ parameters, parameters? (.among field false (values.map .str)) = some parameters ∧
      Parameter.firstFault? parameters = none := by
  refine ⟨_, by rw [parameters?, ofText, Parameter.ofValues?_texts], ?_⟩
  simp [Parameter.firstFault?]

theorem truth_among_texts {values : List String} (given : values ≠ []) :
    truth database environment (.among field false (values.map .str)) =
      if environment.cell field = .null then none
      else some (values.any fun s => environment.cell field = .text s) := by
  rw [truth, ofText, Truth.negateIf, if_neg (by simp), amongValues_texts]
  split
  · next null =>
      obtain ⟨first, rest, rfl⟩ := List.exists_cons_of_ne_nil given
      rw [null, List.map_cons, isAmong_null]
  · next cellGiven =>
      rw [isAmong_eq cellGiven (by simp), List.any_map]
      simp [Function.comp_def, ← Cell.order_eq_text_iff, beq_eq_decide]

theorem holds_among_texts_iff {values : List String} (given : values ≠ []) :
    holds database environment (.among field false (values.map .str)) = true ↔
      ∃ s ∈ values, environment.cell field = .text s := by
  rw [holds, truth_among_texts ofText given]
  split
  · next null => simp [null, Truth.isTrue]
  · simp [Truth.isTrue]

theorem holds_compare_text_iff {s : String} :
    holds database environment (.compare field .eq (.str s)) = true ↔
      environment.cell field = .text s := by
  have fits : Fits .text (.str s) := ⟨rfl, rfl⟩
  have sameText : operand .text (.str s) = .text s := rfl
  rw [holds, truth, ofText]
  by_cases null : environment.cell field = .null
  · rw [null, compareWith, compareCells_null]
    simp [Truth.isTrue]
  · rw [compareWith_eq null fits, sameText, ← Cell.order_eq_text_iff]
    simp [Truth.isTrue, Comparison.test]

theorem holds_throughHops_among_iff {values : List String} (given : values ≠ [])
    (hops : List Linkage) :
    holds database environment (Filter.throughHops hops (.among field false (values.map .str))) =
        true ↔
      ∃ s ∈ values, holds database environment
        (Filter.throughHops hops (.compare field .eq (.str s))) = true := by
  induction hops generalizing environment with
  | nil => simp only [Filter.throughHops, List.foldr_nil, holds_among_texts_iff ofText given,
      holds_compare_text_iff ofText]
  | cons link later inductionHypothesis =>
      have step (condition : Condition) : Filter.throughHops (link :: later) condition =
          .related link (Filter.throughHops later condition) := rfl
      simp only [step, holds_related_iff_exists, inductionHypothesis]
      constructor
      · rintro ⟨scope, inSight, linked, s, member, met⟩
        exact ⟨s, member, scope, inSight, linked, met⟩
      · rintro ⟨s, member, scope, inSight, linked, met⟩
        exact ⟨scope, inSight, linked, s, member, met⟩

end Store

namespace Condition

variable {field : Field} (ofText : field.column.kind = .text)

include ofText

theorem Exchanges.among_texts {values others : List String} (given : values ≠ [])
    (same : ∀ s, s ∈ values ↔ s ∈ others) :
    Exchanges (.among field false (values.map .str)) (.among field false (others.map .str)) where
  stored := iff_of_true (parameters?_among_texts ofText values)
    (parameters?_among_texts ofText others)
  resolves tables := rfl
  truth database environment := by
    have othersGiven : others ≠ [] := by
      obtain ⟨first, member⟩ := List.exists_mem_of_ne_nil _ given
      exact List.ne_nil_of_mem ((same first).mp member)
    rw [truth_among_texts ofText given, truth_among_texts ofText othersGiven]
    congr 2
    rw [Bool.eq_iff_iff]
    simp [same]

end Condition

namespace CustomFilter

/-- A declared filter for one of some texts, with the path of its column. -/
structure AsksForText (context : Context) (model : Model) (declared : String × CustomFilter)
    (path : FieldPath) : Prop where
  noCallback : declared.2.callback = none
  oneOf : declared.2.kind = "whereIn"
  resolved : FieldPath.resolve context.registry context.options model (field declared) = .ok path
  ofText : path.field.column.kind = .text

/-- The condition on the texts that are given for a key, if there are any. -/
def oneOf? (path : FieldPath) (values : List String) : Option Condition :=
  if values.isEmpty then none
  else some (Filter.throughHops path.hops (.among path.field false (values.map .str)))

section Apply

variable {context : Context} {query : Query} {declared : String × CustomFilter} {path : FieldPath}
  {parameters : QueryString.Parameters}

theorem build_oneOrMany {field : Field} (ofText : field.column.kind = .text) {values : List String}
    (given : values ≠ []) :
    Filter.build field .isIn (QueryString.oneOrMany values) =
      .ok (some (.among field false (values.map .str))) := by
  unfold QueryString.oneOrMany
  split
  · exact Filter.membership_text ofText false _
  · exact Filter.membership_texts ofText false (.list _) given

/-- A declared filter for one of some texts restricts a query by the texts of its key. -/
theorem AsksForText.apply_eq (asks : AsksForText context query.model declared path) :
    apply context query (QueryString.grouped parameters) [declared] =
      .ok (query.restrictAll
        (oneOf? path (QueryString.valuesOf parameters declared.1)).toList) := by
  obtain ⟨noCallback, oneOf, resolved, ofText⟩ := asks
  simp only [apply, List.foldlM_cons, List.foldlM_nil, bind_pure]
  by_cases occurs : declared.1 ∈ parameters.map (·.1)
  · have given := mt QueryString.valuesOf_eq_nil_iff.mp (not_not.mpr occurs)
    have compiled : compile context query.model declared.1 declared.2
        (QueryString.oneOrMany (QueryString.valuesOf parameters declared.1)) =
          .ok (oneOf? path (QueryString.valuesOf parameters declared.1)) := by
      have known : kinds.lookup "whereIn" = some .isIn := rfl
      rw [compile, oneOf, known]
      simp only [reduceCtorEq, false_and, if_false]
      rw [← field, resolved]
      simp only [bind, Except.bind, Filter.compile, build_oneOrMany ofText given, Option.map_some,
        oneOf?, List.isEmpty_eq_false_iff.mpr given, if_neg Bool.false_ne_true]
    rw [QueryString.value_grouped_of_mem occurs]
    split
    · next null => simp [QueryString.oneOrMany_ne_null] at null
    · rw [applyOne, noCallback]
      dsimp only
      rw [QueryOptions.contain_eq_ok_ok_iff.mpr compiled]
      rfl
  · rw [QueryString.value_grouped_of_not_mem occurs, QueryString.valuesOf_eq_nil_iff.mpr occurs]
    simp [oneOf?]

theorem exchange_oneOf? {others : QueryString.Parameters} (ofText : path.field.column.kind = .text)
    (same : ∀ parameter, parameter ∈ parameters ↔ parameter ∈ others) (key : String) :
    List.Forall₂ Condition.Exchanges (oneOf? path (QueryString.valuesOf parameters key)).toList
      (oneOf? path (QueryString.valuesOf others key)).toList := by
  have sameValues (s : String) :
      s ∈ QueryString.valuesOf parameters key ↔ s ∈ QueryString.valuesOf others key := by
    rw [QueryString.mem_valuesOf_iff, QueryString.mem_valuesOf_iff, same]
  by_cases none : QueryString.valuesOf parameters key = []
  · have noneToo : QueryString.valuesOf others key = [] := by
      simpa [none, List.eq_nil_iff_forall_not_mem] using sameValues
    simp [none, noneToo, oneOf?]
  · have given : QueryString.valuesOf others key ≠ [] := by
      obtain ⟨first, member⟩ := List.exists_mem_of_ne_nil _ none
      exact List.ne_nil_of_mem ((sameValues first).mp member)
    simp only [oneOf?, List.isEmpty_eq_false_iff.mpr none, List.isEmpty_eq_false_iff.mpr given,
      if_neg Bool.false_ne_true, Option.toList_some]
    exact .cons ((Condition.Exchanges.among_texts ofText none sameValues).throughHops _) .nil

/-- Filters for one of some texts put conditions on a query that can stand for each other, whichever
parameters with the same members are given. -/
theorem apply_exchange {others : QueryString.Parameters} {filters : List (String × CustomFilter)}
    {other : Query} (sameModel : other.model = query.model)
    (same : ∀ parameter, parameter ∈ parameters ↔ parameter ∈ others)
    (asks : ∀ declared ∈ filters, ∃ path, AsksForText context query.model declared path) :
    ∃ conditions otherConditions, List.Forall₂ Condition.Exchanges conditions otherConditions ∧
      apply context query (QueryString.grouped parameters) filters =
        .ok (query.restrictAll conditions) ∧
      apply context other (QueryString.grouped others) filters =
        .ok (other.restrictAll otherConditions) := by
  -- Each filter starts from what the ones before it left, which is not one query but two.
  induction filters generalizing query other with
  | nil =>
      exact ⟨[], [], .nil, by simp [apply, pure, Except.pure], by simp [apply, pure, Except.pure]⟩
  | cons declared rest inductionHypothesis =>
      obtain ⟨⟨path, asksHere⟩, asksLater⟩ := List.forall_mem_cons.mp asks
      obtain ⟨conditions, otherConditions, exchange, applied, otherApplied⟩ :=
        @inductionHypothesis
          (query.restrictAll (oneOf? path (QueryString.valuesOf parameters declared.1)).toList)
          (other.restrictAll (oneOf? path (QueryString.valuesOf others declared.1)).toList)
          sameModel asksLater
      have asksToo : AsksForText context other.model declared path := sameModel ▸ asksHere
      have exchangeHere := exchange_oneOf? asksHere.ofText same declared.1
      refine ⟨_, _, List.rel_append exchangeHere exchange, ?_, ?_⟩
      · rw [apply_cons, asksHere.apply_eq, ← Query.restrictAll_restrictAll]
        exact applied
      · rw [apply_cons, asksToo.apply_eq, ← Query.restrictAll_restrictAll]
        exact otherApplied

theorem AsksForText.table_eq {model : Model} (asks : AsksForText context model declared path)
    (direct : path.hops = []) : path.field.table = model.table.name := by
  obtain ⟨name, resolved⟩ := FieldPath.exists_of_resolve asks.resolved
  cases FieldPath.resolveName_eq_ok_iff.mp resolved with
  | plain given allowed noPoint found => exact (Model.field?_eq_some found).2.1
  | dotted allowed enabled someLink => exact absurd direct someLink

section Rows

variable (asks : AsksForText context query.model declared path) (direct : path.hops = [])
  {database : Database}

include asks direct

theorem AsksForText.rows_direct {values : List String} {base : List Row} (given : values ≠ [])
    (executed : rows database query = .ok base) :
    ∃ found, rows database (query.restrictAll (oneOf? path values).toList) = .ok found ∧
      found.Perm (base.filter fun row =>
        values.any fun s => row path.field.column.name = .text s) := by
  obtain ⟨restrictionsTaken, orderTaken, -⟩ := rows_eq_ok_iff.mp executed
  have ofModel := asks.table_eq direct
  have condition : oneOf? path values =
      some (.among path.field false (values.map .str)) := by
    simp [oneOf?, given, direct, Filter.throughHops]
  have accepted : Accepts query.model.table.name (.among path.field false (values.map .str)) :=
    ⟨parameters?_among_texts asks.ofText values,
      by simp [Names.conditionResolves, Names.fieldResolves, Names.resolves, ofModel]⟩
  rw [condition, Option.toList_some]
  refine ⟨_, rows_restrictAll_eq_ok_iff.mpr ⟨restrictionsTaken, accepted, orderTaken, rfl⟩, ?_⟩
  refine (List.mergeSort_perm _ _).trans ?_
  rw [select_restrictAll]
  refine .trans (.of_eq ?_) ((rows_perm_select executed).symm.filter _)
  apply List.filter_congr
  intro row _
  have sameCell : (Environment.ofRow query.model.table.name row).cell path.field =
      row path.field.column.name :=
    Environment.cell_of_row? (by rw [ofModel, Environment.row?_ofRow])
  rw [Bool.eq_iff_iff]
  simp [holds_among_texts_iff asks.ofText given, sameCell]

end Rows

end Apply

/-- A request's parameters keep for every name all its values, in their order and nothing else.  A
declared filter for one of some texts selects the rows whose cell is one of the values of its key,
and behind relations those which equality with one of the values selects.  Whichever order the
parameters have and however often each is repeated, such filters leave the same rows. -/
theorem repeated_parameters (context : Context) (query : Query)
    (parameters : QueryString.Parameters) :
    (((QueryString.grouped parameters).map (·.1)).Nodup ∧
      ∀ key, (key ∈ (QueryString.grouped parameters).map (·.1) ↔ key ∈ parameters.map (·.1)) ∧
        QueryString.texts ((QueryString.grouped parameters).value key) =
          (parameters.filter (·.1 = key)).map (·.2)) ∧
    (∀ declared path, AsksForText context query.model declared path →
      declared.1 ∈ parameters.map (·.1) →
      ∃ restricted, apply context query (QueryString.grouped parameters) [declared] =
          .ok restricted ∧
        (path.hops = [] → ∀ database base, rows database query = .ok base →
          ∃ found, rows database restricted = .ok found ∧
            found.Perm (base.filter fun row => parameters.any fun parameter =>
              parameter.1 = declared.1 ∧ row path.field.column.name = .text parameter.2)) ∧
        ∀ database found, rows database restricted = .ok found → ∀ row, row ∈ found ↔
          row ∈ select database query ∧ ∃ value, (declared.1, value) ∈ parameters ∧
            holds database (.ofRow query.model.table.name row) (Filter.throughHops path.hops
              (.compare path.field .eq (.str value))) = true) ∧
    ∀ others filters, (∀ parameter, parameter ∈ parameters ↔ parameter ∈ others) →
      (∀ declared ∈ filters, ∃ path, AsksForText context query.model declared path) →
      ∃ restricted otherwise,
        apply context query (QueryString.grouped parameters) filters = .ok restricted ∧
        apply context query (QueryString.grouped others) filters = .ok otherwise ∧
        ∀ database found, rows database restricted = .ok found ↔
          rows database otherwise = .ok found := by
  refine ⟨⟨?_, fun key => ⟨?_, ?_⟩⟩, ?_, ?_⟩
  · simpa [QueryString.grouped, Function.comp_def] using QueryString.names_nodup
  · simp [QueryString.grouped, QueryString.mem_names_iff]
  · exact QueryString.texts_value_grouped key
  · intro declared path asks occurs
    have given : QueryString.valuesOf parameters declared.1 ≠ [] :=
      mt QueryString.valuesOf_eq_nil_iff.mp (not_not.mpr occurs)
    refine ⟨_, asks.apply_eq, ?_, ?_⟩
    · intro direct database base executed
      obtain ⟨found, restricted, selected⟩ := asks.rows_direct direct given executed
      refine ⟨found, restricted, selected.trans (.of_eq (List.filter_congr fun row _ => ?_))⟩
      rw [Bool.eq_iff_iff]
      simp [QueryString.mem_valuesOf_iff]
    · intro database found restricted row
      have condition : (oneOf? path (QueryString.valuesOf parameters declared.1)).toList =
          [Filter.throughHops path.hops (.among path.field false
            ((QueryString.valuesOf parameters declared.1).map .str))] := by
        simp [oneOf?, given]
      rw [condition] at restricted
      rw [mem_rows_restrictAll_iff restricted, holds_throughHops_among_iff asks.ofText given]
      simp only [QueryString.mem_valuesOf_iff]
  · intro others filters same asks
    obtain ⟨conditions, otherConditions, exchange, applied, otherApplied⟩ :=
      apply_exchange rfl same asks
    exact ⟨_, _, applied, otherApplied, fun database found =>
      rows_exchange exchange query database found⟩

/-- Of five posts two are published and two are drafts; both statuses are asked for, one of them
twice and with another parameter in between. -/
theorem repeated_parameters_posts :
    let context : Context := { registry := .ofSchema Sample.schema }
    let query : Query := ⟨Sample.post, [], []⟩
    let parameters := QueryString.parse "status=draft&page=2&status=published&status=draft"
    let declared : String × CustomFilter := ("status", { kind := "whereIn" })
    let path : FieldPath := ⟨"status", [], Sample.field Sample.post.table "status" .text⟩
    AsksForText context query.model declared path ∧ declared.1 ∈ parameters.map (·.1) ∧
      QueryString.texts ((QueryString.grouped parameters).value "status") =
        ["draft", "published", "draft"] ∧
      ∃ restricted found, apply context query (QueryString.grouped parameters) [declared] =
          .ok restricted ∧ rows Sample.database restricted = .ok found ∧ found.length = 4 := by
  intro context query parameters declared path
  have asks : AsksForText context query.model declared path :=
    ⟨rfl, rfl, by decide +kernel, rfl⟩
  have occurs : declared.1 ∈ parameters.map (·.1) := by decide +kernel
  have executed : rows Sample.database query = .ok (sorted Sample.database query) :=
    rows_eq_ok_iff.mpr ⟨by decide +kernel, by decide +kernel, rfl⟩
  obtain ⟨⟨-, kept⟩, selects, -⟩ := repeated_parameters context query parameters
  obtain ⟨restricted, applied, direct, -⟩ := selects declared path asks occurs
  obtain ⟨found, restrictedRows, selected⟩ := direct rfl _ _ executed
  refine ⟨asks, occurs, (kept "status").2.trans (by decide +kernel), restricted, found, applied,
    restrictedRows, ?_⟩
  rw [selected.length_eq, ((rows_perm_select executed).filter _).length_eq]
  decide +kernel

end CustomFilter

end GridQuery
