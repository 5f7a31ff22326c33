import GridQuery.Proofs.Composition

/-!
What becomes of a tolerant run when it is strict.  Where the tolerant run goes
on without an item, the strict one ends with the item's error; as errors are
only ever added behind those that are there, it ends with the first.  Hence a
strict run returns exactly when a tolerant one reports no error.
-/

namespace GridQuery

def Context.withStrict (context : Context) (strict : Bool) : Context :=
  { context with options := { context.options with strict } }

/-- What becomes of a tolerant computation in a strict run, where `errors` are those that a result
reports. -/
inductive Tolerates {Result : Type} (errors : Result → List QueryError) :
    Outcome Result → Outcome Result → Prop
  | clean {result : Result} : errors result = [] → Tolerates errors (.ok result) (.ok result)
  | refused {result : Result} {error : QueryError} {rest : List QueryError} :
      errors result = error :: rest → Tolerates errors (.ok result) (reject error)
  | failed (failure strictFailure : Failure) :
      Tolerates errors (.error failure) (.error strictFailure)

namespace Tolerates

variable {Result Final : Type} {errors : Result → List QueryError}
  {finalErrors : Final → List QueryError}

theorem same (outcome : Outcome Result) : Tolerates (fun _ => []) outcome outcome := by
  cases outcome with
  | error failure => exact .failed failure failure
  | ok result => exact .clean rfl

/-- Errors that were reported stay in front of those that are reported later, so the first one is
never overtaken. -/
theorem bind {tolerant strict : Outcome Result} (tolerates : Tolerates errors tolerant strict)
    {later strictLater : Result → Outcome Final}
    (onward : ∀ result, errors result = [] →
      Tolerates finalErrors (later result) (strictLater result))
    (recorded : ∀ result final, later result = .ok final → errors result <+: finalErrors final) :
    Tolerates finalErrors (tolerant >>= later) (strict >>= strictLater) := by
  cases tolerates with
  | clean silent => exact onward _ silent
  | failed failure strictFailure => exact .failed failure strictFailure
  | @refused result error rest reported =>
      change Tolerates finalErrors (later result) (reject error)
      cases returned : later result with
      | error failure => exact .failed failure (.rejected error)
      | ok final =>
          obtain ⟨more, sum⟩ := recorded result final returned
          have reportedFirst : finalErrors final = error :: (rest ++ more) := by
            rw [← sum, reported, List.cons_append]
          exact .refused reportedFirst

variable {tolerant strict : Outcome Result} (tolerates : Tolerates errors tolerant strict)
  {result : Result}

include tolerates

theorem strict_eq_ok_of_clean (returned : tolerant = .ok result) (silent : errors result = []) :
    strict = .ok result := by
  subst returned
  cases tolerates with
  | clean _ => rfl
  | refused reported => simp [silent] at reported

theorem strict_eq_reject {error : QueryError} {rest : List QueryError}
    (returned : tolerant = .ok result) (reported : errors result = error :: rest) :
    strict = reject error := by
  subst returned
  cases tolerates with
  | clean silent => simp [silent] at reported
  | refused first =>
      rw [reported] at first
      injection first with same _
      rw [same]

theorem tolerant_eq_ok (returned : strict = .ok result) :
    errors result = [] ∧ tolerant = .ok result := by
  cases tolerates with
  | clean silent =>
      injection returned with same
      subst same
      exact ⟨silent, rfl⟩
  | refused reported => simp [reject] at returned
  | failed failure strictFailure => simp at returned

end Tolerates

namespace Compose

section Items

variable {Item Result : Type}

theorem skipped_cons (outcome : Except QueryError Result)
    (outcomes : List (Except QueryError Result)) :
    skipped (outcome :: outcomes) = skipped [outcome] ++ skipped outcomes := by
  cases outcome <;> simp [skipped]

theorem contain_tolerates (options : QueryOptions) (outcome : Outcome Result) :
    Tolerates (fun kept => skipped [kept]) ({ options with strict := false }.contain outcome)
      ({ options with strict := true }.contain outcome) := by
  rcases outcome with (error | fault) | result
  · exact .refused rfl
  · exact .failed _ _
  · exact .clean rfl

theorem each_tolerates (options : QueryOptions) (compile : Item → Outcome Result)
    (items : List Item) :
    Tolerates skipped (each { options with strict := false } compile items)
      (each { options with strict := true } compile items) := by
  induction items with
  | nil => exact .clean rfl
  | cons item rest inductionHypothesis =>
      apply (contain_tolerates options (compile item)).bind
      · intro outcome silent
        apply inductionHypothesis.bind
        · intro outcomes restSilent
          apply Tolerates.clean
          rw [skipped_cons outcome, silent, restSilent, List.append_nil]
        · intro outcomes all returned
          obtain rfl : outcome :: outcomes = all := by simpa using returned
          have sameErrors : skipped (outcome :: outcomes) = skipped outcomes := by
            rw [skipped_cons outcome, silent, List.nil_append]
          simp only [sameErrors, List.prefix_rfl]
      · intro outcome all returned
        obtain ⟨outcomes, -, same⟩ := bind_eq_ok_iff.mp returned
        obtain rfl : outcome :: outcomes = all := by simpa using same
        rw [skipped_cons outcome outcomes]
        exact List.prefix_append _ _

end Items

section Runs

variable (context : Context) (query : Query) (choice : Value) (request : Members)

theorem filters_tolerates (clauses : List FilterClause) :
    Tolerates Prod.snd (filters (context.withStrict false) query clauses)
      (filters (context.withStrict true) query clauses) := by
  apply (each_tolerates context.options (compileClause context query.model) clauses).bind
  · intro outcomes silent
    exact .clean silent
  · intro outcomes final returned
    obtain rfl : _ = final := by simpa using returned
    exact List.prefix_rfl

theorem search_tolerates (term : Value) (fields : List Value) :
    Tolerates Prod.snd (search (context.withStrict false) query term fields)
      (search (context.withStrict true) query term fields) := by
  unfold search
  by_cases blank : (!term.isTruthy) = true
  · rw [if_pos blank, if_pos blank]
    exact .clean rfl
  · rw [if_neg blank, if_neg blank]
    apply (each_tolerates context.options (compileSearch context query.model term) fields).bind
    · intro outcomes silent
      exact .clean silent
    · intro outcomes final returned
      obtain rfl : _ = final := by simpa using returned
      exact List.prefix_rfl

theorem requestedSearch_tolerates :
    Tolerates Prod.snd (requestedSearch (context.withStrict false) query choice request)
      (requestedSearch (context.withStrict true) query choice request) := by
  apply (Tolerates.same _).bind
  · intro term? _
    cases term? with
    | none => exact .clean rfl
    | some term =>
        apply (Tolerates.same _).bind
        · intro fields _
          apply search_tolerates
        · intro fields final _
          exact List.nil_prefix
  · intro term? final _
    exact List.nil_prefix

theorem sorting_tolerates (clause : Option SortClause) :
    Tolerates Prod.snd (sorting (context.withStrict false) query clause)
      (sorting (context.withStrict true) query clause) := by
  apply (contain_tolerates context.options (order context query clause)).bind
  · intro outcome silent
    cases outcome with
    | error error => simp [skipped] at silent
    | ok ordered => exact .clean rfl
  · intro outcome final returned
    cases outcome with
    | error error =>
        obtain rfl : (query, [error]) = final := by simpa using returned
        exact List.prefix_rfl
    | ok ordered => exact List.nil_prefix

theorem request_tolerates :
    Tolerates Composed.skipped (Compose.request (context.withStrict false) query choice request)
      (Compose.request (context.withStrict true) query choice request) := by
  apply (Tolerates.same _).bind
  · intro clauses _
    apply (filters_tolerates context query clauses).bind
    · rintro ⟨filtered, badFilters⟩ silent
      obtain rfl : badFilters = [] := silent
      apply (requestedSearch_tolerates context filtered choice request).bind
      · rintro ⟨searched, badFields⟩ silent
        obtain rfl : badFields = [] := silent
        apply (Tolerates.same _).bind
        · intro clause _
          apply (sorting_tolerates context searched clause).bind
          · rintro ⟨ordered, badOrder⟩ silent
            obtain rfl : badOrder = [] := silent
            apply (Tolerates.same _).bind
            · intro page _
              exact .clean rfl
            · intro page final _
              exact List.nil_prefix
          · rintro ⟨ordered, badOrder⟩ final returned
            obtain ⟨page, -, same⟩ := bind_eq_ok_iff.mp returned
            obtain rfl : _ = final := by simpa using same
            exact List.prefix_rfl
        · intro clause final _
          exact List.nil_prefix
      · rintro ⟨searched, badFields⟩ final returned
        simp only [bind_eq_ok_iff] at returned
        obtain ⟨clause, -, ⟨ordered, badOrder⟩, -, page, -, same⟩ := returned
        obtain rfl : _ = final := by simpa using same
        exact List.prefix_append _ _
    · rintro ⟨filtered, badFilters⟩ final returned
      simp only [bind_eq_ok_iff] at returned
      obtain ⟨⟨searched, badFields⟩, -, clause, -, ⟨ordered, badOrder⟩, -, page, -, same⟩ :=
        returned
      obtain rfl : _ = final := by simpa using same
      exact List.prefix_append _ _
  · intro clauses final _
    exact List.nil_prefix

end Runs

end Compose

end GridQuery
