import GridQuery.Proofs.Composition
import GridQuery.Proofs.Constraint
import GridQuery.Proofs.Resolution
import GridQuery.Proofs.View
import GridQuery.Sample.Rows
import GridQuery.Store.Present

/-!
What a client can learn.  Every column that a composed query reads is at the
end of a path that resolves, or a key on the way there.  Hence a column that no
allowed path ends in or links by is hidden from every request, and without
relations all tables are hidden but that of the model.
-/

namespace GridQuery

open Store

namespace View

variable {view : View}

/-- The view has all that conditions and sort terms at the end of a path depend on. -/
structure HasPath (view : View) (path : FieldPath) : Prop where
  field : view.sees path.field
  hop : ∀ link ∈ path.hops, (∀ source ∈ link.sources, view.HasSource source) ∧
    view.HasKeys link.keys
  sortKey : view.HasSortKey ⟨path.hops, path.field⟩

theorem hasCondition_of_field? {condition : Condition} {field : Field}
    (about : condition.field? = some field) (seen : view.sees field) :
    view.HasCondition condition := by
  cases condition with
  | related link inner => simp [Condition.field?] at about
  | _ =>
      obtain rfl : _ = field := by simpa [Condition.field?] using about
      exact seen

theorem hasCondition_throughHops {hops : List Linkage} {condition : Condition}
    (has : ∀ link ∈ hops, (∀ source ∈ link.sources, view.HasSource source) ∧
      view.HasKeys link.keys)
    (hasInner : view.HasCondition condition) :
    view.HasCondition (Filter.throughHops hops condition) := by
  induction hops with
  | nil => exact hasInner
  | cons link rest inductionHypothesis =>
      rw [List.forall_mem_cons] at has
      exact ⟨has.1.1, has.1.2, inductionHypothesis has.2⟩

theorem hasSource_withMentioned (all : ∀ name, view.ranges name) {source : Source}
    (has : view.HasSource source) (keys : List KeyPair) (outer : String) :
    ∀ member ∈ source.withMentioned keys outer, view.HasSource member := by
  intro member inSources
  simp only [Source.withMentioned, List.mem_filter, List.mem_cons, List.mem_map] at inSources
  obtain ⟨rfl | ⟨name, -, rfl⟩, -⟩ := inSources
  · exact has
  · exact all name

theorem hasSource_chain (all : ∀ name, view.ranges name) {later : List Linkage}
    (has : ∀ link ∈ later, view.HasKeys link.keys) (target : String) :
    view.HasSource (SortKey.chain target later) := by
  induction later with
  | nil => exact all target
  | cons link rest inductionHypothesis =>
      rw [List.forall_mem_cons] at has
      exact ⟨inductionHypothesis has.2, all _, has.1⟩

end View

namespace Compose

variable {context : Context} {query : Query} {view : View}
  (hasPaths : ∀ field path, FieldPath.resolve context.registry context.options query.model field =
    .ok path → view.HasPath path)

include hasPaths

theorem hasCondition_of_compileClause {clause : FilterClause} {condition : Condition}
    (compiled : compileClause context query.model clause = .ok (some condition)) :
    view.HasCondition condition := by
  obtain ⟨path, mode, resolved, compiled⟩ := exists_of_compileClause compiled
  obtain ⟨leaf, built, rfl⟩ := Filter.compile_eq_ok compiled
  have has := hasPaths _ path resolved
  apply View.hasCondition_throughHops has.hop
  exact View.hasCondition_of_field? built.constrains.field?_eq has.field

theorem hasSortKey_of_ofClause {wanted : SortClause} {term : SortTerm}
    (read : SortTerm.ofClause context.registry context.options query.model wanted = .ok term) :
    view.HasSortKey term.key := by
  obtain ⟨path, resolved, -, rfl⟩ := SortTerm.ofClause_eq_ok read
  exact (hasPaths _ path resolved).sortKey

theorem hasQuery_of_request (has : view.HasQuery query) {choice : Value} {request : Members}
    {composed : Composed}
    (returned : Compose.request context query choice request = .ok composed) :
    view.HasQuery composed.query ∧ composed.query.model = query.model := by
  have hasAll : ∀ condition ∈ composed.query.restrictions.flatMap conditionsOf,
      view.HasCondition condition := by
    intro condition member
    rcases mem_or_exists_of_request returned member with before | ⟨clause, compiled⟩
    · exact has.condition condition before
    · exact hasCondition_of_compileClause hasPaths compiled
  obtain ⟨asked, constraints, alternatives, terms, -, -, shape, wanted⟩ := request_eq_ok returned
  rw [shape] at hasAll ⊢
  refine ⟨⟨has.root, hasAll, ?_⟩, rfl⟩
  intro term member
  rcases List.mem_append.mp member with before | added
  · exact has.term term before
  · obtain ⟨clause, read⟩ := wanted term added
    exact hasSortKey_of_ofClause hasPaths read

end Compose

/-- Two columns that the store does not tell apart. -/
def Field.IsSame (field other : Field) : Prop :=
  field.table = other.table ∧ field.column.name = other.column.name

def Linkage.allKeys (link : Linkage) : List KeyPair :=
  link.keys ++ (link.association.map (·.keys)).getD []

instance (field other : Field) : Decidable (field.IsSame other) :=
  inferInstanceAs (Decidable (field.table = other.table ∧ field.column.name = other.column.name))

/-- A path that neither ends in a column nor links by it. -/
structure FieldPath.Avoids (path : FieldPath) (hidden : Field) : Prop where
  field : ¬ path.field.IsSame hidden
  key : ∀ link ∈ path.hops, ∀ pair ∈ link.allKeys, ¬ pair.1.IsSame hidden ∧ ¬ pair.2.IsSame hidden

/-- Two databases that differ at most in the cells of one column. -/
def Database.DifferIn (hidden : Field) (database other : Database) : Prop :=
  ∀ table, List.Forall₂ (fun row otherRow : Row => ∀ column,
    ¬ (table = hidden.table ∧ column = hidden.column.name) → row column = otherRow column)
      (database table) (other table)

namespace View

/-- Everything but one column. -/
def without (hidden : Field) : View where
  ranges _ := True
  sees field := ¬ field.IsSame hidden

def only (name : String) : View where
  ranges table := table = name
  sees _ := True

theorem without_agree {hidden : Field} {database other : Database}
    (differ : Database.DifferIn hidden database other) : (without hidden).Agree database other := by
  intro table _
  refine (differ table).imp fun row otherRow same => ?_
  rintro field rfl seen
  exact same field.column.name seen

theorem only_agree {name : String} {database other : Database}
    (same : database name = other name) : (only name).Agree database other := by
  rintro table rfl
  rw [same, List.forall₂_same]
  exact fun row _ field _ _ => rfl

theorem without_hasPath {hidden : Field} {path : FieldPath} (avoids : path.Avoids hidden) :
    (without hidden).HasPath path := by
  have all (name : String) : (without hidden).ranges name := trivial
  have hasKeys (link : Linkage) (member : link ∈ path.hops) :
      (without hidden).HasKeys link.keys :=
    fun pair inKeys => avoids.key link member pair (List.mem_append_left _ inKeys)
  refine ⟨avoids.field, ?_, avoids.field, ?_⟩
  · intro link member
    refine ⟨hasSource_withMentioned all ?_ _ _, hasKeys link member⟩
    unfold Linkage.source
    split
    · exact all _
    · next association associated =>
        refine ⟨all _, all _, fun pair inKeys => avoids.key link member pair ?_⟩
        exact List.mem_append_right _ (by simpa [associated] using inKeys)
  · intro sources keys ranged
    unfold SortKey.subquery? at ranged
    cases hops : path.hops with
    | nil => simp [hops] at ranged
    | cons first later =>
        rw [hops] at hasKeys
        simp only [hops, Option.some.injEq, Prod.mk.injEq] at ranged
        obtain ⟨rfl, rfl⟩ := ranged
        refine ⟨hasSource_withMentioned all (hasSource_chain all ?_ _) _ _, hasKeys first (by simp)⟩
        exact fun link inLater => hasKeys link (by simp [inLater])

theorem only_hasPath {name : String} {path : FieldPath} (noHops : path.hops = []) :
    (only name).HasPath path := by
  refine ⟨trivial, by simp [noHops], trivial, ?_⟩
  intro sources keys ranged
  simp [SortKey.subquery?, noHops] at ranged

end View

theorem presentKey_eq {model : Model} {hidden : Field}
    (notKey : ∀ key ∈ model.keys, ¬ key.IsSame hidden) {row otherRow : Row}
    (agree : (View.without hidden).RowsAgree model.table.name row otherRow) :
    presentKey model row = presentKey model otherRow := by
  have sameCell (key : Field) (member : key ∈ model.keys) :
      row key.column.name = otherRow key.column.name := by
    refine agree key ?_ (notKey key member)
    obtain ⟨column, -, rfl⟩ := List.mem_map.mp (List.mem_filter.mp member).1
    rfl
  unfold presentKey
  split
  · next key keys => rw [sameCell key (by simp [keys])]
  · exact congrArg Value.list (List.map_congr_left fun key member => by rw [sameCell key member])

theorem View.eq_of_only_rowsAgree {name : String} {row otherRow : Row}
    (agree : (View.only name).RowsAgree name row otherRow) : row = otherRow := by
  funext column
  exact agree ⟨name, { label := column, name := column, kind := .untyped }⟩ rfl trivial

section Requests

variable {context : Context} {query : Query} {choice : Value} {request : Members}
  {composed : Composed} (returned : Compose.request context query choice request = .ok composed)

include returned

/-- An allow-list that avoids a column leaves it out of everything that is composed. -/
theorem Compose.without_hasQuery_of_request {hidden : Field} {allowed : List String}
    (listed : context.options.allowedFields = some allowed)
    (avoids : ∀ name ∈ allowed, ∀ path, FieldPath.resolve context.registry context.options
      query.model (.str name) = .ok path → path.Avoids hidden)
    (has : (View.without hidden).HasQuery query) :
    (View.without hidden).HasQuery composed.query ∧ composed.query.model = query.model := by
  refine Compose.hasQuery_of_request ?_ has returned
  intro field path resolved
  obtain ⟨name, member, resolvedSo⟩ := FieldPath.resolve_of_allowed listed resolved
  exact View.without_hasPath (avoids name member path resolvedSo)

theorem Compose.only_hasQuery_of_request (disabled : context.options.relationsEnabled = false)
    (has : (View.only query.model.table.name).HasQuery query) :
    (View.only query.model.table.name).HasQuery composed.query ∧
      composed.query.model = query.model := by
  refine Compose.hasQuery_of_request ?_ has returned
  intro field path resolved
  exact View.only_hasPath (FieldPath.resolve_of_relationsDisabled disabled resolved)

/-- A column that no allowed path ends in or links by is hidden from every request: the rows of the
model are the same ones, in the same order and of the same number, whatever the column holds.
Without relations the same is true of every table but the model's. -/
theorem request_hides {database other : Database} :
    (∀ {hidden : Field} {allowed : List String},
      context.options.allowedFields = some allowed →
      (∀ key ∈ query.model.keys, ¬ key.IsSame hidden) →
      (∀ name ∈ allowed, ∀ path, FieldPath.resolve context.registry context.options query.model
        (.str name) = .ok path → path.Avoids hidden) →
      (View.without hidden).HasQuery query → Database.DifferIn hidden database other →
      count database composed.query = count other composed.query ∧
      (rows database composed.query).map (·.map (presentKey query.model)) =
        (rows other composed.query).map (·.map (presentKey query.model)) ∧
      ∀ page, paginate database composed.query page (presentKey query.model) =
        paginate other composed.query page (presentKey query.model)) ∧
    (context.options.relationsEnabled = false →
      (View.only query.model.table.name).HasQuery query →
      database query.model.table.name = other query.model.table.name →
      count database composed.query = count other composed.query ∧
      rows database composed.query = rows other composed.query ∧
      ∀ page serialize, paginate database composed.query page serialize =
        paginate other composed.query page serialize) := by
  constructor
  · intro hidden allowed listed notKey avoids hasBefore differ
    obtain ⟨has, sameModel⟩ :=
      Compose.without_hasQuery_of_request returned listed avoids hasBefore
    have agree := View.without_agree differ
    rw [← sameModel] at notKey ⊢
    refine ⟨count_eq agree has, rows_map_eq agree has ?_, paginate_eq agree has ?_⟩
    · exact fun row otherRow => presentKey_eq notKey
    · exact fun row otherRow => presentKey_eq notKey
  · intro disabled hasBefore sameTable
    obtain ⟨has, sameModel⟩ := Compose.only_hasQuery_of_request returned disabled hasBefore
    have agree := View.only_agree sameTable
    rw [← sameModel] at agree has
    refine ⟨count_eq agree has, ?_, fun page serialize => paginate_eq agree has ?_ page⟩
    · have unchanged (outcome : Outcome (List Row)) : outcome.map (·.map id) = outcome := by
        cases outcome <;> simp [Except.map]
      rw [← unchanged (rows database _), ← unchanged (rows other _)]
      exact rows_map_eq agree has fun row otherRow => View.eq_of_only_rowsAgree
    · intro row otherRow rowsAgree
      rw [View.eq_of_only_rowsAgree rowsAgree]

end Requests

/-- When only titles, views and the names of authors may be named, the addresses of the authors are
hidden from a request that probes for them. -/
theorem request_hides_email :
    let context : Context := ⟨.ofSchema Sample.schema,
      { allowedFields := some ["title", "views", "author.name"] }, {}⟩
    let query : Query := ⟨Sample.post, [], []⟩
    let probe : Members := [
      ("filters", .list [.object [("field", .str "author.email"), ("operator", .str "startsWith"),
        ("value", .str "alice")]]),
      ("globalFilter", .str "acme"),
      ("globalFilterFields", .list [.str "author.email", .str "author.name"]),
      ("sortField", .str "author.email")]
    let forgotten : Database := fun table =>
      if table = "authors" then
        (Sample.database table).map fun row column => if column = "email" then .null else row column
      else Sample.database table
    ∃ composed, Compose.request context query .null probe = .ok composed ∧
      count Sample.database composed.query = count forgotten composed.query := by
  intro context query probe forgotten
  have returns : (Compose.request context query .null probe).toBool = true := by decide +kernel
  have avoids : ∀ name ∈ ["title", "views", "author.name"], ∀ path, FieldPath.resolve
      context.registry context.options query.model (.str name) = .ok path →
        path.Avoids ⟨"authors", Sample.column "email" .text⟩ := by
    have title : FieldPath.resolve context.registry context.options query.model (.str "title") =
        .ok ⟨"title", [], ⟨"posts", Sample.column "title" .text⟩⟩ := by decide +kernel
    have views : FieldPath.resolve context.registry context.options query.model (.str "views") =
        .ok ⟨"views", [], ⟨"posts", Sample.column "views" .integer⟩⟩ := by decide +kernel
    have author : FieldPath.resolve context.registry context.options query.model
        (.str "author.name") = .ok ⟨"author.name",
          [Sample.refersTo "author" Sample.post "author_id" Sample.author],
          ⟨"authors", Sample.column "name" .text⟩⟩ := by decide +kernel
    simp only [List.forall_mem_cons, title, views, author, Except.ok.injEq, forall_eq']
    exact ⟨⟨by decide, by decide⟩, ⟨by decide, by decide⟩, ⟨by decide, by decide⟩, by simp⟩
  have differ : Database.DifferIn ⟨"authors", Sample.column "email" .text⟩ Sample.database
      forgotten := by
    intro table
    by_cases authors : table = "authors"
    · simp only [forgotten, authors, if_true, List.forall₂_map_right_iff, List.forall₂_same]
      intro row _ column other
      have apart : column ≠ "email" := fun email => other ⟨trivial, email⟩
      rw [if_neg apart]
    · simp only [forgotten, authors, if_false, List.forall₂_same]
      exact fun row _ column _ => trivial
  cases returned : Compose.request context query .null probe with
  | error failure => simp [returned, Except.toBool] at returns
  | ok composed =>
      refine ⟨composed, rfl, ?_⟩
      exact ((request_hides returned).1 rfl (by decide) avoids (.plain trivial) differ).1

end GridQuery
