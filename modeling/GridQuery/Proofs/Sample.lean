import GridQuery.Proofs.Walk
import GridQuery.Sample.Schema

/-!
The relations of the sample schema follow from the keys of its tables.
-/

namespace GridQuery.Sample

theorem refersTo_followsKeys (name : String) (parent target : Model) (label : String)
    (differ : parent.table.name = target.table.name → label ≠ "id") :
    (refersTo name parent label target).FollowsKeys := by
  refine .direct rfl ⟨by simp [refersTo], ?_, ?_, ?_, ?_⟩ ?_
  · simp [refersTo, reference, field]
  · simp [refersTo, idOf]
  · simp [refersTo]
  · simp [refersTo]
  · intro same
    simpa [refersTo, reference, field, column, idOf, key] using differ same

theorem referredBy_followsKeys (name : String) (parent target : Model) (label : String)
    (cardinality : Cardinality) (differ : parent.table.name = target.table.name → label ≠ "id") :
    (referredBy name parent target label cardinality).FollowsKeys := by
  refine .direct rfl ⟨by simp [referredBy], ?_, ?_, ?_, ?_⟩ ?_
  · simp [referredBy, idOf]
  · simp [referredBy, reference, field]
  · simp [referredBy]
  · simp [referredBy]
  · intro same
    simpa [referredBy, reference, field, column, idOf, key, eq_comm] using differ same

theorem taggedBy_followsKeys (name : String) (parent : Model) (table : Table) (label : String)
    (cardinality : Cardinality) (notParent : table.name ≠ parent.table.name)
    (notTag : table.name ≠ tag.table.name) :
    (taggedBy name parent table label cardinality).FollowsKeys := by
  refine .through rfl ⟨by simp [taggedBy], ?_, ?_, ?_, ?_⟩ ⟨by simp, ?_, ?_, ?_, ?_⟩
    notParent notTag
  · simp [taggedBy, idOf]
  · simp [taggedBy]
  · simp [taggedBy]
  · simp [taggedBy]
  · simp [taggedBy, idOf]
  · simp
  · simp
  · simp

theorem schema_sound : schema.Sound where
  names_nodup := by decide
  parent_mem := by decide +kernel
  target_mem := by decide +kernel
  followsKeys := by
    simp only [schema, relations, List.forall_mem_cons, List.not_mem_nil, IsEmpty.forall_iff,
      implies_true, and_true]
    exact ⟨refersTo_followsKeys _ _ _ _ (by decide),
      referredBy_followsKeys _ _ _ _ _ (by decide),
      referredBy_followsKeys _ _ _ _ _ (by decide),
      refersTo_followsKeys _ _ _ _ (by decide),
      refersTo_followsKeys _ _ _ _ (by decide),
      referredBy_followsKeys _ _ _ _ _ (by decide),
      taggedBy_followsKeys _ _ _ _ _ (by decide) (by decide),
      refersTo_followsKeys _ _ _ _ (by decide),
      taggedBy_followsKeys _ _ _ _ _ (by decide) (by decide),
      taggedBy_followsKeys _ _ _ _ _ (by decide) (by decide),
      refersTo_followsKeys _ _ _ _ (by decide),
      referredBy_followsKeys _ _ _ _ _ (by decide),
      .direct rfl ⟨by decide, by decide, by decide, by decide, by decide⟩ (by decide),
      .direct rfl ⟨by decide, by decide, by decide, by decide, by decide⟩ (by decide)⟩

end GridQuery.Sample
