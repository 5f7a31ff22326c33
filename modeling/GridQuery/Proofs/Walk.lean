import GridQuery.Proofs.Resolution
import Mathlib.Data.List.Nodup

/-!
Walks over relations.  A schema is sound when its relations follow from the
keys of its tables; a registry is derived when it knows no other relations.
Over a derived registry a dotted name that resolves spells out a walk, each
relation of which starts at the target of the one before.
-/

namespace GridQuery

/-- Key pairs from columns of one table to as many columns of another. -/
structure KeysBetween (keys : List KeyPair) (near far : String) : Prop where
  ne_nil : keys ≠ []
  near_table : ∀ pair ∈ keys, pair.1.table = near
  far_table : ∀ pair ∈ keys, pair.2.table = far
  near_nodup : (keys.map (·.1.column.name)).Nodup
  far_nodup : (keys.map (·.2.column.name)).Nodup

namespace Linkage

/-- A relation that follows from the keys of its tables.  An association table is neither of the
two tables that it connects, and a table refers to itself through some column other than the one
that is referred to. -/
inductive FollowsKeys (link : Linkage) : Prop
  | direct
      (alone : link.association = none)
      (keys : KeysBetween link.keys link.parent.table.name link.target.table.name)
      (differ : link.parent.table.name = link.target.table.name →
        ∃ pair ∈ link.keys, pair.1.column.name ≠ pair.2.column.name)
  | through {association : Association}
      (associated : link.association = some association)
      (keys : KeysBetween link.keys link.parent.table.name association.table)
      (targetKeys : KeysBetween association.keys link.target.table.name association.table)
      (not_parent : association.table ≠ link.parent.table.name)
      (not_target : association.table ≠ link.target.table.name)

/-- A relation of a table with itself. -/
def IsSelfReferential (link : Linkage) : Prop :=
  link.parent.table.name = link.target.table.name

instance (link : Linkage) : Decidable link.IsSelfReferential :=
  inferInstanceAs (Decidable (link.parent.table.name = link.target.table.name))

end Linkage

/-- The relations of a schema lead from model to model and follow from the keys. -/
structure Schema.Sound (schema : Schema) : Prop where
  names_nodup : (schema.models.map (·.name)).Nodup
  parent_mem : ∀ link ∈ schema.relations, link.parent ∈ schema.models
  target_mem : ∀ link ∈ schema.relations, link.target ∈ schema.models
  followsKeys : ∀ link ∈ schema.relations, link.FollowsKeys

/-- In a sound schema the name of a model tells which one it is. -/
theorem Schema.Sound.eq_of_name {schema : Schema} (sound : schema.Sound) {first second : Model}
    (firstKnown : first ∈ schema.models) (secondKnown : second ∈ schema.models)
    (sameName : first.name = second.name) : first = second :=
  List.inj_on_of_nodup_map sound.names_nodup firstKnown secondKnown sameName

namespace Linkages

theorem mem_add {links : Linkages} {added link : Linkage} (known : link ∈ links.add added) :
    link ∈ links ∨ link = added := by
  unfold add at known
  split at known
  · exact .inl known
  · simpa using known

theorem mem_foldl_add {added links : Linkages} {link : Linkage}
    (known : link ∈ added.foldl add links) : link ∈ links ∨ link ∈ added := by
  induction added generalizing links with
  | nil => exact .inl known
  | cons first rest inductionHypothesis =>
      rcases inductionHypothesis known with inLinks | inRest
      · rcases mem_add inLinks with old | rfl
        · exact .inl old
        · exact .inr (by simp)
      · exact .inr (by simp [inRest])

end Linkages

namespace Registry

/-- A registry to which nothing was registered: it knows relations of its schema, each under the
model that it starts from. -/
def IsDerived (registry : Registry) : Prop :=
  ∀ name, ∀ link ∈ registry.table name,
    link ∈ registry.schema.relations ∧ link.parent.name = name

theorem isDerived_ofSchema (schema : Schema) : (ofSchema schema).IsDerived := by
  intro name link known
  simp [ofSchema, table] at known

theorem table_withTable (registry : Registry) (model name : String) (links : Linkages) :
    (registry.withTable model links).table name =
      if name = model then links else registry.table name := by
  by_cases same : name = model
  · simp [withTable, table, same]
  · have other : (name == model) = false := by simpa using same
    simp only [withTable, table, List.lookup_cons, other, same, if_false]
    congr 1
    induction registry.tables with
    | nil => rfl
    | cons entry rest inductionHypothesis =>
        obtain ⟨known, knownLinks⟩ := entry
        by_cases removed : known = model
        · have apart : (name == known) = false := by simpa [removed] using same
          simpa [removed, List.lookup_cons, other] using inductionHypothesis
        · simp only [List.filter_cons, bne_iff_ne, ne_eq, removed, not_false_eq_true, if_true,
            List.lookup_cons, inductionHypothesis]

theorem IsDerived.mem_registerModel {registry : Registry} (derived : registry.IsDerived)
    {model : Model} {link : Linkage} (known : link ∈ (registry.registerModel model).1) :
    link ∈ registry.schema.relations ∧ link.parent.name = model.name := by
  rcases Linkages.mem_foldl_add known with old | new
  · exact derived model.name link old
  · simpa [Schema.relationsOf] using new

theorem IsDerived.registerModel {registry : Registry} (derived : registry.IsDerived)
    (model : Model) : (registry.registerModel model).2.IsDerived := by
  intro name link known
  change link ∈ (registry.withTable model.name (registry.registerModel model).1).table name at known
  rw [table_withTable] at known
  split at known
  · next same =>
      subst same
      exact derived.mem_registerModel known
  · exact derived name link known

theorem IsDerived.get?_eq_some {registry : Registry} (derived : registry.IsDerived)
    {model : Model} {name : String} {link : Linkage}
    (found : registry.get? model name = some link) :
    link ∈ registry.schema.relations ∧ link.parent.name = model.name := by
  have known : link ∈ (registry.relationsFor model).1 := List.mem_of_find?_eq_some found
  unfold relationsFor at known
  split at known
  · exact derived model.name link known
  · exact derived.mem_registerModel known

end Registry

/-- Relations that lead from one model to another, each from the target of the one before. -/
inductive Walk : Model → List Linkage → Model → Prop
  | stay (model : Model) : Walk model [] model
  | step (link : Linkage) {links : List Linkage} {target : Model} :
      Walk link.target links target → Walk link.parent (link :: links) target

namespace FieldPath

theorem follow_isWalk {registry : Registry} (derived : registry.IsDerived)
    (sound : registry.schema.Sound) {name : String} {model : Model} {hops : List String}
    {links : List Linkage} {target : Model} (known : model ∈ registry.schema.models)
    (followed : follow registry name model hops = .ok (links, target)) :
    Walk model links target ∧ ∀ link ∈ links, link.FollowsKeys := by
  induction hops generalizing model links with
  | nil =>
      obtain ⟨rfl, rfl⟩ : [] = links ∧ model = target := by simpa [follow] using followed
      exact ⟨.stay model, by simp⟩
  | cons hop later inductionHypothesis =>
      cases found : registry.get? model hop with
      | none => simp [follow, found] at followed
      | some link =>
          simp only [follow, found, bind_eq_ok_iff] at followed
          obtain ⟨⟨rest, last⟩, restFollowed, result⟩ := followed
          obtain ⟨rfl, rfl⟩ : link :: rest = links ∧ last = target := by simpa using result
          obtain ⟨inSchema, sameName⟩ := derived.get?_eq_some found
          have startsHere : link.parent = model :=
            sound.eq_of_name (sound.parent_mem link inSchema) known sameName
          obtain ⟨walk, follows⟩ :=
            inductionHypothesis (sound.target_mem link inSchema) restFollowed
          subst startsHere
          refine ⟨.step link walk, ?_⟩
          intro other member
          rcases List.mem_cons.mp member with rfl | inRest
          · exact sound.followsKeys other inSchema
          · exact follows other inRest

/-- What a resolved name spells out: a walk from the model to the one that holds the column. -/
theorem resolve_isWalk {registry : Registry} (derived : registry.IsDerived)
    (sound : registry.schema.Sound) {options : QueryOptions} {model : Model} {field : Value}
    {path : FieldPath} (known : model ∈ registry.schema.models)
    (resolved : resolve registry options model field = .ok path) :
    ∃ target, Walk model path.hops target ∧ path.field.table = target.table.name ∧
      ∀ link ∈ path.hops, link.FollowsKeys := by
  obtain ⟨name, resolved⟩ := exists_of_resolve resolved
  unfold resolveName at resolved
  split at resolved
  · simp at resolved
  split at resolved
  · simp at resolved
  split at resolved
  · cases found : model.field? (Text.strip name) with
    | none => simp [resolvePlain, found] at resolved
    | some column =>
        obtain rfl : _ = path := by simpa [resolvePlain, found] using resolved
        exact ⟨model, .stay model, (Model.field?_eq_some found).2.1, by simp⟩
  split at resolved
  · simp at resolved
  simp only [resolveDotted, bind_eq_ok_iff] at resolved
  obtain ⟨⟨hops, column⟩, -, ⟨links, target⟩, followed, result⟩ := resolved
  obtain ⟨walk, follows⟩ := follow_isWalk derived sound known followed
  cases found : target.field? column with
  | none => simp [found] at result
  | some columnField =>
      obtain rfl : _ = path := by simpa [found] using result
      exact ⟨target, walk, (Model.field?_eq_some found).2.1, follows⟩

end FieldPath

end GridQuery
