import GridQuery.Ordering
import GridQuery.Proofs.Outcome
import Mathlib.Data.List.DropRight

/-!
Which field names lead to a column.  Blanks around a name do not matter, an
allow-list lets a name through only if it is listed, and without relations no
name leads away from the model.  A sort goes where its name leads, if there is
at most one row to find there.
-/

namespace GridQuery

namespace Text

theorem trimWhere_trimWhere {Item : Type} (blank : Item → Bool) (items : List Item) :
    trimWhere blank (trimWhere blank items) = trimWhere blank items := by
  have trimWhere_eq (list : List Item) :
      trimWhere blank list = (list.dropWhile blank).rdropWhile blank := rfl
  have frontKept : (trimWhere blank items).dropWhile blank = trimWhere blank items := by
    rw [List.dropWhile_eq_self_iff]
    intro given
    have front : trimWhere blank items <+: items.dropWhile blank := List.rdropWhile_prefix blank _
    rw [front.getElem given]
    exact List.dropWhile_eq_self_iff.mp (List.dropWhile_idempotent blank items) _
  rw [trimWhere_eq (trimWhere blank items), frontKept, trimWhere_eq items]
  exact List.rdropWhile_idempotent blank _

theorem strip_strip (s : String) : strip (strip s) = strip s := by
  simp only [strip, stripChars, String.toList_ofList, trimWhere_trimWhere]

end Text

namespace FieldPath

variable {registry : Registry} {options : QueryOptions} {model : Model} {field : Value}
  {path : FieldPath}

theorem resolve_str (name : String) :
    resolve registry options model (.str name) =
      ofChecked (resolveName registry options model (Text.strip name)) := by
  rw [resolve, Value.orElse_empty]
  rfl

theorem resolve_str_cases (registry : Registry) (options : QueryOptions) (model : Model)
    (name : String) :
    (∃ error, resolve registry options model (.str name) = reject error) ∨
      ∃ path, resolve registry options model (.str name) = .ok path := by
  rw [resolve_str]
  rcases resolveName registry options model (Text.strip name) with error | path
  · exact .inl ⟨error, rfl⟩
  · exact .inr ⟨path, rfl⟩

theorem exists_of_resolve (resolved : resolve registry options model field = .ok path) :
    ∃ name, resolveName registry options model (Text.strip name) = .ok path := by
  simp only [resolve, bind_eq_ok_iff, ofChecked_eq_ok_iff] at resolved
  obtain ⟨name, -, resolved⟩ := resolved
  exact ⟨name, resolved⟩

theorem resolve_strip (name : String) :
    resolve registry options model (.str (Text.strip name)) =
      resolve registry options model (.str name) := by
  rw [resolve_str, resolve_str, Text.strip_strip]

theorem resolve_of_no_name {name : String} (noName : (Text.strip name).isEmpty = true) :
    resolve registry options model (.str name) = reject (.field .empty (Text.strip name)) := by
  rw [resolve_str, resolveName, if_pos noName]
  rfl

/-- An allow-list lets a name through only if it is on the list, blanks around it apart. -/
theorem resolve_of_allowed {allowed : List String} (listed : options.allowedFields = some allowed)
    (resolved : resolve registry options model field = .ok path) :
    ∃ name ∈ allowed, resolve registry options model (.str name) = .ok path := by
  obtain ⟨name, resolved⟩ := exists_of_resolve resolved
  refine ⟨Text.strip name, ?_, ?_⟩
  · unfold resolveName at resolved
    split at resolved
    · simp at resolved
    split at resolved
    · simp at resolved
    next isAllowed =>
      simpa [QueryOptions.fieldAllowed, listed] using isAllowed
  · rw [resolve_strip, resolve_str, resolved]
    rfl

theorem resolve_of_relationsDisabled (disabled : options.relationsEnabled = false)
    (resolved : resolve registry options model field = .ok path) :
    path.hops = [] := by
  obtain ⟨name, resolved⟩ := exists_of_resolve resolved
  unfold resolveName at resolved
  split at resolved
  · simp at resolved
  split at resolved
  · simp at resolved
  split at resolved
  · unfold resolvePlain at resolved
    split at resolved
    · simp at resolved
    next found =>
      obtain rfl : _ = path := by simpa using resolved
      rfl
  · simp [disabled] at resolved

end FieldPath

/-- A sort that is accepted goes along a path of single-valued relations. -/
theorem SortTerm.ofClause_eq_ok {registry : Registry} {options : QueryOptions} {model : Model}
    {clause : SortClause} {term : SortTerm}
    (accepted : ofClause registry options model clause = .ok term) :
    ∃ path, FieldPath.resolve registry options model (.str clause.field) = .ok path ∧
      (∀ link ∈ path.hops, link.singleValued = true) ∧
      term = ⟨⟨path.hops, path.field⟩, clause.descending⟩ := by
  simp only [ofClause, bind_eq_ok_iff] at accepted
  obtain ⟨path, resolved, key, ofPath, result⟩ := accepted
  obtain rfl : _ = term := by simpa using result
  have resolvedSo : FieldPath.resolve registry options model (.str clause.field) = .ok path := by
    rw [FieldPath.resolve_str]
    cases found : FieldPath.resolveName registry options model (Text.strip clause.field) <;>
      simp_all [Except.mapError]
  unfold SortKey.ofPath at ofPath
  split at ofPath
  · simp at ofPath
  next allSingle =>
    obtain rfl : _ = key := by simpa using ofPath
    exact ⟨path, resolvedSo, by simpa using allSingle, rfl⟩

end GridQuery
