import GridQuery.Proofs.Alike
import GridQuery.Proofs.Composition
import GridQuery.Proofs.Masking
import GridQuery.Sample.Schema

/-!
What a user types never becomes a part of a statement.  Two requests that
differ in user text only are both refused, or give queries that differ in
constants only, and so have statements of the same form.
-/

namespace GridQuery

/-- Constraints that differ in constants only. -/
def SameMask (first second : Option Condition) : Prop :=
  first.map Condition.masked = second.map Condition.masked

theorem SameMask.constraints {outcomes others : List (Except QueryError (Option Condition))}
    (kept : List.Forall₂ (Alike.Kept SameMask) outcomes others) :
    ((Compose.kept outcomes).filterMap id).map Condition.masked =
      ((Compose.kept others).filterMap id).map Condition.masked := by
  induction kept with
  | nil => rfl
  | @cons outcome other outcomes others outcomeKept _ inductionHypothesis =>
      cases outcomeKept with
      | left error otherError => exact inductionHypothesis
      | @result constraint otherConstraint same =>
          cases constraint <;> cases otherConstraint <;>
            simp_all [SameMask, Compose.kept, Except.toOption]

namespace Filter

open MatchMode

inductive HasItems : Value → List Value → Prop
  | list (items : List Value) : HasItems (.list items) items
  | tuple (items : List Value) : HasItems (.tuple items) items

/-- Two values of a clause that differ in user text: texts, lists of texts to be among, or the two
texts of a range; none of them is empty. -/
inductive TextsAlike (operator : String) : Value → Value → Prop
  | text {first second : String} : first ≠ "" → second ≠ "" →
      TextsAlike operator (.str first) (.str second)
  | texts {mode : MatchMode} {first second : Value} {firsts seconds : List String}
      (asked : MatchMode.read (.str operator) none = .ok mode)
      (listed : mode = .isIn ∨ mode = .notIn)
      (firstItems : HasItems first (firsts.map .str))
      (secondItems : HasItems second (seconds.map .str)) :
      firsts ≠ [] → seconds ≠ [] → "" ∉ firsts → "" ∉ seconds → TextsAlike operator first second
  | range {first second : Value} {firstLow firstHigh secondLow secondHigh : String}
      (asked : MatchMode.read (.str operator) none = .ok .between)
      (firstItems : HasItems first [.str firstLow, .str firstHigh])
      (secondItems : HasItems second [.str secondLow, .str secondHigh]) :
      firstLow ≠ "" → firstHigh ≠ "" → secondLow ≠ "" → secondHigh ≠ "" →
      TextsAlike operator first second

theorem read_eq_ok_iff (raw : Value) (field : Option String) (mode : MatchMode) :
    MatchMode.read raw field = .ok mode ↔ MatchMode.read raw none = .ok mode := by
  unfold MatchMode.read
  cases (raw.orElse (.str MatchMode.equals.name)).text with
  | error failure => simp [bind, Except.bind]
  | ok text =>
      simp only [bind, Except.bind]
      split <;> simp [reject]

section Texts

variable {field : Field} (ofText : field.column.kind = .text)

include ofText

theorem coerce_text (s : String) : coerce field.column (.str s) = .ok (.str s) := by
  simp [coerce, ofText, Coercion.toText]

theorem scalar_text (s : String) : scalar field (.str s) = .ok (.str s) :=
  coerce_text ofText s

theorem equal_text (negated : Bool) (s : String) :
    equal field negated (.str s) =
      .ok (.compare field (if negated then .ne else .eq) (.str s)) := by
  simp [equal, scalar_text ofText, bind, Except.bind, equality]

theorem byOrder_text (comparison : Comparison) (s : String) :
    byOrder field comparison (.str s) = .ok (.compare field comparison (.str s)) := by
  simp [byOrder, scalar_text ofText, bind, Except.bind, ordered]

theorem mapM_coerce_texts (texts : List String) :
    ((texts.map Value.str).filter (!·.isNull)).mapM (coerce field.column) =
      .ok (texts.map Value.str) := by
  have allGiven : (texts.map Value.str).filter (!·.isNull) = texts.map Value.str := by
    simp [List.filter_eq_self, Value.isNull]
  rw [allGiven]
  induction texts with
  | nil => rfl
  | cons first rest inductionHypothesis =>
      have restGiven : (rest.map Value.str).filter (!·.isNull) = rest.map Value.str := by
        simp [List.filter_eq_self, Value.isNull]
      rw [List.map_cons, List.mapM_cons, coerce_text ofText, inductionHypothesis restGiven]
      rfl

theorem membership_texts (negated : Bool) {value : Value} {texts : List String}
    (items : HasItems value (texts.map .str)) (given : texts ≠ []) :
    membership field negated value = .ok (some (.among field negated (texts.map .str))) := by
  have sameItems : itemsOf value = texts.map .str := by
    cases items <;> rfl
  cases items <;>
  · simp only [membership, sameItems, mapM_coerce_texts ofText]
    simp [bind, Except.bind, given]

theorem membership_text (negated : Bool) (s : String) :
    membership field negated (.str s) = .ok (some (.among field negated [.str s])) := by
  have items : itemsOf (.str s) = [s].map .str := rfl
  simp only [membership, items, mapM_coerce_texts ofText]
  simp [bind, Except.bind]

theorem rangeOf_texts {value : Value} {low high : String}
    (items : HasItems value [.str low, .str high]) (lowGiven : low ≠ "") (highGiven : high ≠ "") :
    rangeOf field value = .ok (some (.between field (.str low) (.str high))) := by
  have bound {s : String} (given : s ≠ "") : bound? field (.str s) = .ok (some (.str s)) := by
    simp [bound?, given, coerce_text ofText]
  cases items <;>
  · simp only [rangeOf, range, bound lowGiven, bound highGiven]
    rfl

theorem byDay_text (relation : DayRelation) (s : String) :
    ∃ error, byDay field relation (.str s) = reject error := by
  cases read : Coercion.toDate field.column.label (.str s) with
  | ok day =>
      exact ⟨.value field.column.label .dateColumn,
        by simp only [byDay, read, bind, Except.bind, ofText, Coercion.refuse]⟩
  | error failure =>
      obtain rfl : .rejected (.value field.column.label .date) = failure := by
        simp only [Coercion.toDate, Coercion.givenText?_str, Value.written, bind,
          Except.bind] at read
        split at read
        · simp at read
        · simpa [Coercion.refuse, reject] using read
      exact ⟨_, by simp only [byDay, read, bind, Except.bind]; rfl⟩

end Texts

theorem build_text_alike {field : Field} {mode : MatchMode}
    (place : mode ∈ substringModes ∨ field.column.kind = .text) (first second : String) :
    Alike SameMask (build field mode (.str first)) (build field mode (.str second)) := by
  by_cases substringMode : mode ∈ substringModes
  · simp only [substringModes, List.mem_cons, List.not_mem_nil, or_false] at substringMode
    rcases substringMode with rfl | rfl | rfl | rfl <;> exact .ok rfl
  have ofText := place.resolve_left substringMode
  have byDayAlike (relation : DayRelation) : Alike SameMask
      (some <$> byDay field relation (.str first))
      (some <$> byDay field relation (.str second)) := by
    obtain ⟨firstError, firstRefused⟩ := byDay_text ofText relation first
    obtain ⟨secondError, secondRefused⟩ := byDay_text ofText relation second
    rw [firstRefused, secondRefused]
    exact .rejected firstError secondError
  cases mode with
  | contains | notContains | startsWith | endsWith => simp [substringModes] at substringMode
  | dateIs | dateIsNot | dateBefore | dateAfter => exact byDayAlike _
  | between => exact .rejected _ _
  | isIn | notIn =>
      simp only [build, membership_text ofText]
      exact .ok rfl
  | equals | notEquals =>
      simp only [build, equal_text ofText]
      exact .ok rfl
  | lt | lte | gt | gte =>
      simp only [build, byOrder_text ofText]
      exact .ok rfl

/-- A mode and user text put conditions on a column of texts that differ in constants only, and so
do the modes that look for a text on any column. -/
theorem build_alike {field : Field} {operator : String} {mode : MatchMode} {first second : Value}
    (asked : MatchMode.read (.str operator) none = .ok mode)
    (place : mode ∈ substringModes ∨ field.column.kind = .text)
    (alike : TextsAlike operator first second) :
    Alike SameMask (build field mode first) (build field mode second) := by
  cases alike with
  | text => exact build_text_alike place _ _
  | texts askedToo listed firstItems secondItems firstsGiven secondsGiven =>
      -- A list is user text only where a mode asks for one, and such a mode looks for no text.
      obtain rfl : mode = _ := by simpa [asked] using askedToo
      have ofText : field.column.kind = .text :=
        place.resolve_left (by rcases listed with rfl | rfl <;> decide)
      rcases listed with rfl | rfl
      · simp only [build, membership_texts ofText _ firstItems firstsGiven,
          membership_texts ofText _ secondItems secondsGiven]
        exact .ok rfl
      · simp only [build, membership_texts ofText _ firstItems firstsGiven,
          membership_texts ofText _ secondItems secondsGiven]
        exact .ok rfl
  | range askedToo firstItems secondItems firstLow firstHigh secondLow secondHigh =>
      obtain rfl : mode = .between := by simpa [asked] using askedToo
      have ofText : field.column.kind = .text := place.resolve_left (by decide)
      simp only [build, rangeOf_texts ofText firstItems firstLow firstHigh,
        rangeOf_texts ofText secondItems secondLow secondHigh]
      exact .ok rfl

theorem throughHops_masked (hops : List Linkage) (condition : Condition) :
    (throughHops hops condition).masked = throughHops hops condition.masked := by
  induction hops with
  | nil => rfl
  | cons link rest inductionHypothesis =>
      exact congrArg (Condition.related link) inductionHypothesis

theorem compile_alike {path : FieldPath} {mode : MatchMode} {first second : Value}
    (alike : Alike SameMask (build path.field mode first) (build path.field mode second)) :
    Alike SameMask (compile path mode first) (compile path mode second) := by
  refine alike.bind fun condition other same => .ok ?_
  cases condition <;> cases other <;>
    simp_all [SameMask, throughHops_masked]

end Filter

namespace Compose

variable {context : Context} {model : Model}

/-- Two clauses that differ in user text only: their values are equal, or user text in a place for
it, which is a column of texts or a mode that looks for a text. -/
structure ClausesAlike (context : Context) (model : Model) (first second : FilterClause) :
    Prop where
  field : first.field = second.field
  operator : first.operator = second.operator
  value : first.value = second.value ∨
    ((∃ mode ∈ MatchMode.substringModes, MatchMode.read (.str first.operator) none = .ok mode) ∨
      ∃ path, FieldPath.resolve context.registry context.options model (.str first.field) =
        .ok path ∧ path.field.column.kind = .text) ∧
    Filter.TextsAlike first.operator first.value second.value

theorem compileClause_alike {first second : FilterClause}
    (alike : ClausesAlike context model first second) :
    Alike SameMask (compileClause context model first) (compileClause context model second) := by
  obtain ⟨field, operator, firstValue⟩ := first
  obtain ⟨otherField, otherOperator, secondValue⟩ := second
  obtain ⟨rfl, rfl, sameValue | ⟨place, textsAlike⟩⟩ := alike
  · obtain rfl : firstValue = secondValue := sameValue
    exact .refl (fun constraint => show SameMask constraint constraint from rfl) _
  dsimp only at place textsAlike
  unfold compileClause Filter.compileRaw
  cases resolved : FieldPath.resolve context.registry context.options model (.str field) with
  | error failure => exact .refl (fun constraint => show SameMask constraint constraint from rfl) _
  | ok path =>
      cases read : MatchMode.read (.str operator) (some path.name) with
      | error failure =>
          simpa [bind, Except.bind, read] using
            Alike.refl (fun constraint => show SameMask constraint constraint from rfl)
              (.error failure)
      | ok mode =>
          have asked := (Filter.read_eq_ok_iff _ _ _).mp read
          have suitable : mode ∈ MatchMode.substringModes ∨ path.field.column.kind = .text := by
            rcases place with ⟨other, isSubstring, askedToo⟩ | ⟨other, resolvedToo, ofText⟩
            · obtain rfl : mode = other := by simpa [asked] using askedToo
              exact .inl isSubstring
            · obtain rfl : path = other := by simpa [resolved] using resolvedToo
              exact .inr ofText
          simpa [bind, Except.bind, read] using
            Filter.compile_alike (Filter.build_alike asked suitable textsAlike)

theorem compileSearch_alike (first second : String) (field : Value) :
    Alike SameMask (compileSearch context model (.str first) field)
      (compileSearch context model (.str second) field) := by
  unfold compileSearch
  refine Alike.bind_same _ fun path => ?_
  have isSubstring : MatchMode.contains ∈ MatchMode.substringModes := by decide
  exact Filter.compile_alike (Filter.build_text_alike (.inl isSubstring) first second)

structure RequestsAlike (context : Context) (model : Model) (choice : Value)
    (first second : Members) : Prop where
  clauses : Alike (List.Forall₂ (ClausesAlike context model))
    (Clause.filters (first.value "filters")) (Clause.filters (second.value "filters"))
  term : (Clause.searchTerm? first).map Option.isSome =
    (Clause.searchTerm? second).map Option.isSome
  fields : Search.fields context.settings model choice first =
    Search.fields context.settings model choice second
  sort : Clause.sort? first = Clause.sort? second
  page : Page.ofRequest context.options first = Page.ofRequest context.options second

variable {query first second : Query}

theorem masked_eq_iff : first.masked = second.masked ↔ first.model = second.model ∧
    first.restrictions.map Restriction.masked = second.restrictions.map Restriction.masked ∧
    first.order = second.order := by
  simp [Query.masked]

def QueriesAlike (model : Model) (first second : Query × List QueryError) : Prop :=
  first.1.model = model ∧ first.1.masked = second.1.masked

theorem restrictAll_masked {conditions others : List Condition}
    (sameQuery : first.masked = second.masked)
    (same : conditions.map Condition.masked = others.map Condition.masked) :
    (first.restrictAll conditions).masked = (second.restrictAll others).masked := by
  obtain ⟨sameModel, sameRestrictions, sameOrder⟩ := masked_eq_iff.mp sameQuery
  have added (list : List Condition) : (list.map Restriction.holds).map Restriction.masked =
      (list.map Condition.masked).map Restriction.holds := by
    simp [Restriction.masked, Function.comp_def]
  refine masked_eq_iff.mpr ⟨sameModel, ?_, sameOrder⟩
  simp only [Query.restrictAll, List.map_append, sameRestrictions, added, same]

theorem restrict_group_masked {conditions others : List Condition}
    (sameQuery : first.masked = second.masked)
    (same : conditions.map Condition.masked = others.map Condition.masked) :
    (if conditions.isEmpty then first else first.restrict (.someOf conditions)).masked =
      (if others.isEmpty then second else second.restrict (.someOf others)).masked := by
  obtain ⟨sameModel, sameRestrictions, sameOrder⟩ := masked_eq_iff.mp sameQuery
  have sameEmpty : conditions.isEmpty = others.isEmpty := by
    have := congrArg List.isEmpty same
    simpa using this
  rw [sameEmpty]
  split
  · exact sameQuery
  · refine masked_eq_iff.mpr ⟨sameModel, ?_, sameOrder⟩
    simp only [Query.restrict, List.map_append, List.map_cons, List.map_nil, sameRestrictions,
      Restriction.masked, same]

theorem filters_alike {clauses others : List FilterClause}
    (alike : List.Forall₂ (ClausesAlike context query.model) clauses others) :
    Alike (QueriesAlike query.model) (filters context query clauses)
      (filters context query others) := by
  refine (Alike.each (alike.imp fun _ _ clauseAlike => compileClause_alike clauseAlike)).bind ?_
  exact fun _ _ kept => .ok ⟨rfl, restrictAll_masked rfl (SameMask.constraints kept)⟩

theorem search_alike (firstTerm secondTerm : String) (fields : List String)
    (firstGiven : (Value.str firstTerm).isTruthy = true)
    (secondGiven : (Value.str secondTerm).isTruthy = true)
    (same : first.masked = second.masked) :
    Alike (QueriesAlike first.model) (search context first (.str firstTerm) (fields.map Value.str))
      (search context second (.str secondTerm) (fields.map Value.str)) := by
  have sameModel := (masked_eq_iff.mp same).1
  simp only [search, firstGiven, secondGiven, Bool.not_true, Bool.false_eq_true, if_false,
    sameModel]
  refine (Alike.each (List.forall₂_same.mpr fun field _ =>
    compileSearch_alike firstTerm secondTerm field)).bind fun _ _ kept => .ok ?_
  refine ⟨?_, restrict_group_masked same (SameMask.constraints kept)⟩
  dsimp only
  split <;> exact sameModel

theorem requestedSearch_alike {choice : Value} {request other : Members}
    (alike : RequestsAlike context query.model choice request other)
    (firstOf : first.model = query.model) (same : first.masked = second.masked) :
    Alike (QueriesAlike query.model) (requestedSearch context first choice request)
      (requestedSearch context second choice other) := by
  have sameModel := (masked_eq_iff.mp same).1
  unfold requestedSearch
  refine (Alike.of_map_eq alike.term).bind ?_
  rintro term otherTerm ⟨firstTerm, secondTerm, sameTerm⟩
  cases term with
  | none =>
      cases otherTerm with
      | none => exact .ok ⟨firstOf, same⟩
      | some term => simp at sameTerm
  | some term =>
      cases otherTerm with
      | none => simp at sameTerm
      | some otherTerm =>
          simp only [← sameModel, firstOf, alike.fields]
          rw [← firstOf]
          refine Alike.bind_same _ fun fields => ?_
          exact search_alike term otherTerm fields (isTruthy_of_searchTerm? firstTerm)
            (isTruthy_of_searchTerm? secondTerm) same

theorem sorting_alike (same : first.masked = second.masked) (clause : Option SortClause) :
    Alike (QueriesAlike first.model) (sorting context first clause)
      (sorting context second clause) := by
  obtain ⟨sameModel, sameRestrictions, sameOrder⟩ := masked_eq_iff.mp same
  have ordered :
      Alike (fun ordered other : Query =>
          ordered.model = first.model ∧ ordered.masked = other.masked)
        (order context first clause) (order context second clause) := by
    cases clause with
    | none => exact .ok ⟨rfl, same⟩
    | some wanted =>
        simp only [order, sameModel]
        refine (Alike.refl (fun _ => Eq.refl _) _).bind fun term _ sameTerm => .ok ?_
        subst sameTerm
        refine ⟨sameModel, masked_eq_iff.mpr ⟨sameModel, sameRestrictions, ?_⟩⟩
        exact congrArg (· ++ [term]) sameOrder
  refine (ordered.contain context.options).bind fun outcome other kept => ?_
  cases kept with
  | result sameOrdered => exact .ok sameOrdered
  | left firstError secondError => exact .ok ⟨rfl, same⟩

/-- Requests that differ in user text only give queries that differ in constants only. -/
theorem request_alike {choice : Value} {request other : Members}
    (alike : RequestsAlike context query.model choice request other) :
    Alike (fun first second : Composed => first.query.masked = second.query.masked)
      (Compose.request context query choice request)
      (Compose.request context query choice other) := by
  unfold Compose.request
  rw [← alike.sort, ← alike.page]
  refine alike.clauses.bind fun clauses others clausesAlike => ?_
  refine (filters_alike clausesAlike).bind ?_
  rintro filtered otherFiltered ⟨filteredOf, filteredAlike⟩
  refine (requestedSearch_alike alike filteredOf filteredAlike).bind
    fun searched otherSearched ⟨_, searchedAlike⟩ => ?_
  refine Alike.bind_same _ fun wanted => ?_
  refine (sorting_alike searchedAlike wanted).bind
    fun ordered otherOrdered ⟨_, orderedAlike⟩ => ?_
  refine (Alike.refl (fun _ => Eq.refl _) _).bind fun page _ samePage => ?_
  exact .ok orderedAlike

/-- User text never reaches a statement: two requests that differ in user text only are both
refused, or they give queries whose statements have the same text and the same names of
parameters. -/
theorem request_sameForm {choice : Value} {request other : Members}
    (alike : RequestsAlike context query.model choice request other) :
    (∃ composed otherComposed,
      Compose.request context query choice request = .ok composed ∧
      Compose.request context query choice other = .ok otherComposed ∧
      ∀ columns, (Sql.Fragment.statement (Sql.selectFragment composed.query columns)).SameForm
        (Sql.Fragment.statement (Sql.selectFragment otherComposed.query columns))) ∨
    ∃ failure otherFailure,
      Compose.request context query choice request = .error failure ∧
      Compose.request context query choice other = .error otherFailure := by
  have ends := request_alike alike
  generalize Compose.request context query choice request = outcome at ends ⊢
  generalize Compose.request context query choice other = otherOutcome at ends ⊢
  cases ends with
  | ok same => exact .inl ⟨_, _, rfl, rfl, Sql.sameForm_of_masked_eq same⟩
  | rejected error otherError => exact .inr ⟨_, _, rfl, rfl⟩
  | fault fault => exact .inr ⟨_, _, rfl, rfl⟩

def requestForPosts (authors : List String) (views term : String) : Members := [
  ("filters", .list [
    .object [("field", .str "author.name"), ("operator", .str "in"),
      ("value", .list (authors.map .str))],
    .object [("field", .str "views"), ("operator", .str "contains"), ("value", .str views)],
    .object [("field", .str "id"), ("operator", .str "gt"), ("value", .int 2)]]),
  ("globalFilter", .str term),
  ("globalFilterFields", .list [.str "tags.name", .str "title"])]

/-- Authors, numbers and search terms may be anything, also what reads like part of a statement. -/
theorem request_sameForm_posts :
    let context : Context := ⟨.ofSchema Sample.schema, {}, {}⟩
    let query : Query := ⟨Sample.post, [], []⟩
    ∃ composed other,
      Compose.request context query .null (requestForPosts ["Alice"] "1" "sql") = .ok composed ∧
      Compose.request context query .null (requestForPosts ["'; DROP TABLE posts;--", ":title_1"]
        "%' OR '1'='1" "_/%") = .ok other ∧
      ∀ columns, (Sql.Fragment.statement (Sql.selectFragment composed.query columns)).SameForm
        (Sql.Fragment.statement (Sql.selectFragment other.query columns)) := by
  intro context query
  have authorsAreText : ∃ path, FieldPath.resolve (.ofSchema Sample.schema) {} Sample.post
      (.str "author.name") = .ok path ∧ path.field.column.kind = .text :=
    ⟨⟨"author.name", [Sample.refersTo "author" Sample.post "author_id" Sample.author],
      ⟨"authors", Sample.column "name" .text⟩⟩, by decide +kernel, rfl⟩
  have alike : RequestsAlike context query.model .null (requestForPosts ["Alice"] "1" "sql")
      (requestForPosts ["'; DROP TABLE posts;--", ":title_1"] "%' OR '1'='1" "_/%") := by
    refine ⟨?_, by decide +kernel, rfl, by decide +kernel, rfl⟩
    refine .ok (.cons ⟨rfl, rfl, .inr ⟨.inr authorsAreText, ?_⟩⟩
      (.cons ⟨rfl, rfl, .inr ⟨.inl ⟨.contains, by decide, by decide +kernel⟩, ?_⟩⟩
      (.cons ⟨rfl, rfl, .inl rfl⟩ .nil)))
    · exact .texts (by decide +kernel) (.inl rfl) (.list _) (.list _) (by simp) (by simp)
        (by decide) (by decide)
    · exact .text (by decide) (by decide)
  rcases request_sameForm alike with ⟨composed, other, returned, otherReturned, sameForm⟩ |
    ⟨failure, _, refused, _⟩
  · exact ⟨composed, other, returned, otherReturned, sameForm⟩
  · have returns : (Compose.request context query .null
        (requestForPosts ["Alice"] "1" "sql")).toBool = true := by decide +kernel
    rw [refused] at returns
    simp [Except.toBool] at returns

end Compose

end GridQuery
