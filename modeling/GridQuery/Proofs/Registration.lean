import GridQuery.Proofs.Walk
import GridQuery.Sample.Schema
import Mathlib.Data.List.Induction

/-!
What a registry knows after any calls.  A name leads to the relation that was
last registered under it, or else to the one that follows from the schema;
neither the order of the calls nor a second derivation matters.  Calls about
one model leave the others alone, and a look-up changes no later one.
-/

namespace GridQuery

namespace Linkages

theorem named?_cons (link : Linkage) (links : Linkages) (name : String) :
    named? (link :: links) name = if link.name = name then some link else links.named? name := by
  by_cases same : link.name = name
  · simp [named?, same]
  · simp [named?, List.find?_cons_of_neg, same]

theorem named?_append (links others : Linkages) (name : String) :
    named? (links ++ others) name = (links.named? name).or (others.named? name) :=
  List.find?_append

theorem named?_put (link : Linkage) (links : Linkages) (name : String) :
    (put link links).named? name = if link.name = name then some link else links.named? name := by
  induction links with
  | nil => exact named?_cons link [] name
  | cons known rest inductionHypothesis =>
      unfold put
      split
      · next replaced =>
          rw [named?_cons, named?_cons, replaced]
          split <;> rfl
      · next other =>
          rw [named?_cons, named?_cons, inductionHypothesis]
          by_cases same : known.name = name
          · have elsewhere : link.name ≠ name := fun taken => other (same.trans taken.symm)
            rw [if_pos same, if_neg elsewhere, if_pos same]
          · rw [if_neg same, if_neg same]

theorem any_name_iff (links : Linkages) (name : String) :
    links.any (·.name == name) = true ↔ name ∈ links.map (·.name) := by
  simp

theorem named?_isSome_iff (links : Linkages) (name : String) :
    (links.named? name).isSome = true ↔ name ∈ links.map (·.name) := by
  simp [named?, List.find?_isSome]

theorem named?_add (links : Linkages) (link : Linkage) (name : String) :
    (links.add link).named? name = (links.named? name).or (named? [link] name) := by
  unfold add
  split
  · next taken =>
      by_cases same : link.name = name
      · subst same
        have found := (named?_isSome_iff links link.name).mpr ((any_name_iff _ _).mp taken)
        rw [Option.or_of_isSome found]
      · rw [named?_cons, if_neg same]
        simp [named?]
  · exact named?_append links [link] name

theorem named?_foldl_add (added links : Linkages) (name : String) :
    named? (added.foldl add links) name = (links.named? name).or (added.named? name) := by
  induction added generalizing links with
  | nil => simp [named?]
  | cons link rest inductionHypothesis =>
      have split : named? (link :: rest) name = (named? [link] name).or (named? rest name) :=
        named?_append [link] rest name
      rw [List.foldl_cons, inductionHypothesis, named?_add, split, Option.or_assoc]

theorem nodup_put {links : Linkages} (distinct : (links.map (·.name)).Nodup) (link : Linkage) :
    ((put link links).map (·.name)).Nodup := by
  induction links with
  | nil => simp [put]
  | cons known rest inductionHypothesis =>
      rw [List.map_cons, List.nodup_cons] at distinct
      unfold put
      split
      · next replaced =>
          rw [List.map_cons, List.nodup_cons, ← replaced]
          exact distinct
      · next other =>
          rw [List.map_cons, List.nodup_cons]
          refine ⟨?_, inductionHypothesis distinct.2⟩
          rw [← named?_isSome_iff, named?_put, if_neg (Ne.symm other), named?_isSome_iff]
          exact distinct.1

theorem nodup_add {links : Linkages} (distinct : (links.map (·.name)).Nodup) (link : Linkage) :
    ((links.add link).map (·.name)).Nodup := by
  unfold add
  split
  · exact distinct
  · next free =>
      rw [any_name_iff] at free
      rw [List.map_append, List.map_singleton, List.nodup_append_comm, List.singleton_append,
        List.nodup_cons]
      exact ⟨free, distinct⟩

theorem nodup_foldl_add {links : Linkages} (distinct : (links.map (·.name)).Nodup)
    (added : Linkages) : ((added.foldl add links).map (·.name)).Nodup := by
  induction added generalizing links with
  | nil => exact distinct
  | cons link rest inductionHypothesis => exact inductionHypothesis (nodup_add distinct link)

theorem mem_iff_named? {links : Linkages} (distinct : (links.map (·.name)).Nodup)
    (link : Linkage) : link ∈ links ↔ links.named? link.name = some link := by
  constructor
  · intro known
    induction links with
    | nil => simp at known
    | cons first rest inductionHypothesis =>
        rw [List.map_cons, List.nodup_cons] at distinct
        rw [named?_cons]
        rcases List.mem_cons.mp known with rfl | inRest
        · rw [if_pos rfl]
        · have apart : first.name ≠ link.name := by
            intro same
            exact distinct.1 (same ▸ List.mem_map_of_mem inRest)
          rw [if_neg apart]
          exact inductionHypothesis distinct.2 inRest
  · exact List.mem_of_find?_eq_some

end Linkages

namespace Registry

/-- A call on a registry. -/
inductive Call
  | register (link : Linkage)
  | registerModel (model : Model)
  | relationsFor (model : Model)
  | get (model : Model) (name : String)

namespace Call

def model : Call → String
  | register link => link.parent.name
  | registerModel model | relationsFor model | get model _ => model.name

/-- The call asks for relations and registers none. -/
def IsLookUp : Call → Prop
  | relationsFor _ | get _ _ => True
  | register _ | registerModel _ => False

end Call

def perform (registry : Registry) : Call → Registry
  | .register link => registry.register link
  | .registerModel model => (registry.registerModel model).2
  | .relationsFor model | .get model _ => (registry.relationsFor model).2

/-- The registry that some calls make of a fresh one. -/
def after (schema : Schema) (calls : List Call) : Registry :=
  calls.foldl perform (ofSchema schema)

/-- The relation that was last registered for a model under a name. -/
def lastRegistered? (calls : List Call) (model name : String) : Option Linkage :=
  calls.reverse.findSome? fun
    | .register link => if link.parent.name = model ∧ link.name = name then some link else none
    | _ => none

/-- The relation that a model should have under a name after some calls. -/
def due? (schema : Schema) (calls : List Call) (model : Model) (name : String) : Option Linkage :=
  (lastRegistered? calls model.name name).or (Linkages.named? (schema.relationsOf model) name)

/-- What is in a registry after some calls: what was registered, and for the models that were
looked up already also what follows from the schema. -/
structure Records (registry : Registry) (schema : Schema) (calls : List Call) : Prop where
  schema_eq : registry.schema = schema
  distinct : ∀ name, ((registry.table name).map (·.name)).Nodup
  known : ∀ model : Model, model.name ∈ registry.derived →
    (registry.table model.name).named? = due? schema calls model
  fresh : ∀ model : Model, model.name ∉ registry.derived →
    (registry.table model.name).named? = lastRegistered? calls model.name

section Calls

variable {registry : Registry} {schema : Schema} {calls : List Call}

theorem lastRegistered?_register (calls : List Call) (link : Linkage) (model name : String) :
    lastRegistered? (calls ++ [.register link]) model name =
      if link.parent.name = model ∧ link.name = name then some link
      else lastRegistered? calls model name := by
  unfold lastRegistered?
  rw [List.reverse_append, List.reverse_singleton, List.singleton_append, List.findSome?_cons]
  by_cases wanted : link.parent.name = model ∧ link.name = name <;> simp [wanted]

theorem lastRegistered?_of_ne_register (calls : List Call) {call : Call}
    (unregistered : ∀ link, call ≠ .register link) (model : String) :
    lastRegistered? (calls ++ [call]) model = lastRegistered? calls model := by
  funext name
  unfold lastRegistered?
  rw [List.reverse_append, List.reverse_singleton, List.singleton_append, List.findSome?_cons]
  cases call with
  | register link => exact absurd rfl (unregistered link)
  | registerModel | relationsFor | get => rfl

theorem due?_of_ne_register (schema : Schema) (calls : List Call) {call : Call}
    (unregistered : ∀ link, call ≠ .register link) (model : Model) :
    due? schema (calls ++ [call]) model = due? schema calls model := by
  funext name
  rw [due?, due?, lastRegistered?_of_ne_register calls unregistered]

theorem due?_of_name (schema : Schema) (calls : List Call) {model other : Model}
    (sameName : model.name = other.name) : due? schema calls model = due? schema calls other := by
  funext name
  simp only [due?, Schema.relationsOf, sameName]

theorem records_ofSchema (schema : Schema) : (ofSchema schema).Records schema [] where
  schema_eq := rfl
  distinct := by simp [ofSchema, table]
  known := by simp [ofSchema]
  fresh := by
    intro model _
    funext name
    simp [ofSchema, table, Linkages.named?, lastRegistered?]

namespace Records

variable (records : registry.Records schema calls)

include records

theorem register (link : Linkage) :
    (registry.register link).Records schema (calls ++ [.register link]) where
  schema_eq := records.schema_eq
  distinct := by
    intro name
    rw [Registry.register, table_withTable]
    split
    · exact Linkages.nodup_put (records.distinct _) link
    · exact records.distinct name
  known := by
    intro model derived
    funext name
    have before := congrFun (records.known model derived) name
    rw [due?] at before
    rw [Registry.register, table_withTable, due?, lastRegistered?_register]
    by_cases about : model.name = link.parent.name
    · rw [if_pos about, Linkages.named?_put, ← about, before]
      by_cases same : link.name = name <;> simp [same]
    · have elsewhere : ¬ (link.parent.name = model.name ∧ link.name = name) :=
        fun both => about both.1.symm
      rw [if_neg about, if_neg elsewhere, before]
  fresh := by
    intro model underived
    funext name
    have before := congrFun (records.fresh model underived) name
    rw [Registry.register, table_withTable, lastRegistered?_register]
    by_cases about : model.name = link.parent.name
    · rw [if_pos about, Linkages.named?_put, ← about, before]
      by_cases same : link.name = name <;> simp [same]
    · have elsewhere : ¬ (link.parent.name = model.name ∧ link.name = name) :=
        fun both => about both.1.symm
      rw [if_neg about, if_neg elsewhere, before]

/-- A derivation completes the relations of a model, whether it was looked up before or not. -/
theorem named?_registerModel (model : Model) :
    (registry.registerModel model).1.named? = due? schema calls model := by
  funext name
  rw [registerModel, Linkages.named?_foldl_add, records.schema_eq]
  by_cases derived : model.name ∈ registry.derived
  · rw [records.known model derived, due?, Option.or_assoc, Option.or_self]
  · rw [records.fresh model derived, due?]

theorem nodup_registerModel (model : Model) :
    ((registry.registerModel model).1.map (·.name)).Nodup :=
  Linkages.nodup_foldl_add (records.distinct model.name) _

theorem registerModel (model : Model) {call : Call} (unregistered : ∀ link, call ≠ .register link) :
    (registry.registerModel model).2.Records schema (calls ++ [call]) := by
  have tableAfter (name : String) : (registry.registerModel model).2.table name =
      if name = model.name then (registry.registerModel model).1 else registry.table name :=
    table_withTable registry model.name name _
  have derivedAfter (name : String) : name ∈ (registry.registerModel model).2.derived ↔
      name = model.name ∨ name ∈ registry.derived := List.mem_cons
  refine ⟨records.schema_eq, ?_, ?_, ?_⟩
  · intro name
    rw [tableAfter]
    split
    · exact records.nodup_registerModel model
    · exact records.distinct name
  · intro other derived
    rw [tableAfter, due?_of_ne_register schema calls unregistered]
    split
    · next about => rw [records.named?_registerModel model, due?_of_name schema calls about]
    · next elsewhere =>
        exact records.known other (((derivedAfter _).mp derived).resolve_left elsewhere)
  · intro other underived
    rw [derivedAfter, not_or] at underived
    rw [tableAfter, if_neg underived.1, lastRegistered?_of_ne_register calls unregistered]
    exact records.fresh other underived.2

theorem relationsFor (model : Model) {call : Call} (unregistered : ∀ link, call ≠ .register link) :
    (registry.relationsFor model).2.Records schema (calls ++ [call]) := by
  unfold Registry.relationsFor
  split
  · refine ⟨records.schema_eq, records.distinct, ?_, ?_⟩
    · intro other derived
      rw [due?_of_ne_register schema calls unregistered, records.known other derived]
    · intro other underived
      rw [lastRegistered?_of_ne_register calls unregistered, records.fresh other underived]
  · exact records.registerModel model unregistered

theorem perform (call : Call) : (registry.perform call).Records schema (calls ++ [call]) := by
  cases call with
  | register link => exact records.register link
  | registerModel model => exact records.registerModel model (by simp)
  | relationsFor model => exact records.relationsFor model (by simp)
  | get model name => exact records.relationsFor model (by simp)

theorem named?_relationsFor (model : Model) :
    (registry.relationsFor model).1.named? = due? schema calls model := by
  unfold Registry.relationsFor
  split
  · next derived => exact records.known model (by simpa using derived)
  · exact records.named?_registerModel model

theorem nodup_relationsFor (model : Model) :
    ((registry.relationsFor model).1.map (·.name)).Nodup := by
  unfold Registry.relationsFor
  split
  · exact records.distinct model.name
  · exact records.nodup_registerModel model

end Records

theorem records_after (schema : Schema) (calls : List Call) :
    (after schema calls).Records schema calls := by
  -- The last call comes last in the history, so the induction takes calls off the end.
  induction calls using List.reverseRecOn with
  | nil => exact records_ofSchema schema
  | append_singleton calls call inductionHypothesis =>
      rw [after, List.foldl_append]
      exact inductionHypothesis.perform call

end Calls

section Frame

/-- What a look-up finds depends on the relations that are known of the model, on whether they are
complete, and on the schema. -/
theorem relationsFor_congr {registry other : Registry} {model : Model}
    (sameSchema : registry.schema = other.schema)
    (sameTable : registry.table model.name = other.table model.name)
    (sameDerived : model.name ∈ registry.derived ↔ model.name ∈ other.derived) :
    (registry.relationsFor model).1 = (other.relationsFor model).1 := by
  unfold relationsFor registerModel
  by_cases derived : model.name ∈ registry.derived
  · simp [derived, sameDerived.mp derived, sameTable]
  · simp [derived, mt sameDerived.mpr derived, sameTable, sameSchema]

variable (registry : Registry)

theorem registerModel_of_ne (model : Model) {other : Model} (apart : model.name ≠ other.name) :
    ((registry.registerModel model).2.relationsFor other).1 = (registry.relationsFor other).1 := by
  apply relationsFor_congr
  · rfl
  · exact (table_withTable registry model.name other.name _).trans (if_neg apart.symm)
  · exact List.mem_cons.trans (or_iff_right apart.symm)

theorem perform_of_ne (call : Call) {other : Model} (apart : call.model ≠ other.name) :
    ((registry.perform call).relationsFor other).1 = (registry.relationsFor other).1 := by
  have lookedUp (model : Model) (elsewhere : model.name ≠ other.name) :
      ((registry.relationsFor model).2.relationsFor other).1 = (registry.relationsFor other).1 := by
    rw [relationsFor.eq_def registry model]
    split
    · rfl
    · exact registry.registerModel_of_ne model elsewhere
  cases call with
  | register link =>
      apply relationsFor_congr
      · rfl
      · exact (table_withTable registry link.parent.name other.name _).trans (if_neg apart.symm)
      · exact Iff.rfl
  | registerModel model => exact registry.registerModel_of_ne model apart
  | relationsFor model => exact lookedUp model apart
  | get model name => exact lookedUp model apart

theorem relationsFor_relationsFor (model other : Model) :
    ((registry.relationsFor model).2.relationsFor other).1 = (registry.relationsFor other).1 := by
  by_cases same : model.name = other.name
  · rw [relationsFor.eq_def registry model]
    split
    · rfl
    · next underived =>
        have tableAfter : (registry.registerModel model).2.table other.name =
            (registry.registerModel model).1 :=
          (table_withTable registry model.name other.name _).trans (if_pos same.symm)
        have derivedAfter :
            (registry.registerModel model).2.derived.contains other.name = true := by
          simp [registerModel, same]
        rw [relationsFor, if_pos derivedAfter, tableAfter, relationsFor, ← same, if_neg underived,
          registerModel, registerModel, Schema.relationsOf, Schema.relationsOf, same]
  · exact registry.perform_of_ne (.relationsFor model) same

theorem perform_of_isLookUp {call : Call} (lookUp : call.IsLookUp) (other : Model) :
    ((registry.perform call).relationsFor other).1 = (registry.relationsFor other).1 := by
  cases call with
  | register | registerModel => exact lookUp.elim
  | relationsFor model => exact registry.relationsFor_relationsFor model other
  | get model name => exact registry.relationsFor_relationsFor model other

end Frame

/-- Whatever calls were made in whatever order, a name leads to the relation that was last
registered under it for the model, and without one to the relation that follows from the schema;
no other name leads anywhere. -/
theorem explicit_registrations_win (schema : Schema) (calls : List Call) (model : Model) :
    (∀ link, link ∈ ((after schema calls).relationsFor model).1 ↔
      ((lastRegistered? calls model.name link.name).or
        (Linkages.named? (schema.relationsOf model) link.name)) = some link) ∧
    (((after schema calls).relationsFor model).1.map (·.name)).Nodup ∧
    (∀ name, (after schema calls).get? model name = (lastRegistered? calls model.name name).or
      (Linkages.named? (schema.relationsOf model) name)) ∧
    (∀ call : Call, call.model ≠ model.name →
      (((after schema calls).perform call).relationsFor model).1 =
        ((after schema calls).relationsFor model).1) ∧
    ∀ call : Call, call.IsLookUp → (((after schema calls).perform call).relationsFor model).1 =
      ((after schema calls).relationsFor model).1 := by
  have records := records_after schema calls
  have found := records.named?_relationsFor model
  have distinct := records.nodup_relationsFor model
  refine ⟨?_, distinct, ?_, ?_, ?_⟩
  · intro link
    rw [Linkages.mem_iff_named? distinct, found, due?]
  · intro name
    rw [get?, found, due?]
  · intro call apart
    exact perform_of_ne _ call apart
  · intro call lookUp
    exact perform_of_isLookUp _ lookUp model

/-- An author registered for posts after a first look-up wins over the author column, also when the
relations of posts are derived again; the tags stay as they were. -/
theorem explicit_registrations_win_author :
    let author := Sample.refersTo "author" Sample.post "id" Sample.author
    let registry := after Sample.schema
      [.relationsFor Sample.post, .register author, .registerModel Sample.post]
    registry.get? Sample.post "author" = some author ∧
      Call.model (.register author) ≠ Sample.tag.name ∧
      ((registry.perform (.register author)).relationsFor Sample.tag).1 =
        (registry.relationsFor Sample.tag).1 ∧
      ((registry.perform (.get Sample.post "tags")).relationsFor Sample.post).1 =
        (registry.relationsFor Sample.post).1 := by
  intro author registry
  obtain ⟨-, -, found, -, lookUps⟩ := explicit_registrations_win Sample.schema
    [.relationsFor Sample.post, .register author, .registerModel Sample.post] Sample.post
  obtain ⟨-, -, -, frame, -⟩ := explicit_registrations_win Sample.schema
    [.relationsFor Sample.post, .register author, .registerModel Sample.post] Sample.tag
  have apart : Call.model (.register author) ≠ Sample.tag.name := by decide
  have unchanged := lookUps (.get Sample.post "tags") trivial
  exact ⟨(found "author").trans rfl, apart, frame _ apart, unchanged⟩

end Registry

end GridQuery
