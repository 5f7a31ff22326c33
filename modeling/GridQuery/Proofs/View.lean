import GridQuery.Proofs.Chain
import GridQuery.Proofs.Outcome
import GridQuery.Proofs.Selection
import GridQuery.Store.Paginate
import Mathlib.Data.List.Forall2

/-!
Views of a database.  A view has the tables whose rows a query ranges over and
the columns whose cells it reads.  Two databases that agree on the view of a
query give rows that agree on it, in the same order and of the same number.
-/

namespace GridQuery

open Store

/-- A part of a database. -/
structure View where
  /-- The tables whose rows are counted. -/
  ranges : String → Prop
  /-- The columns whose cells are read. -/
  sees : Field → Prop

namespace View

variable (view : View)

/-- Two rows of a table with the same cells in every column of the view. -/
def RowsAgree (table : String) (row other : Row) : Prop :=
  ∀ field, field.table = table → view.sees field →
    row field.column.name = other field.column.name

/-- Two databases with as many rows in every table of the view, which agree one by one. -/
def Agree (database other : Database) : Prop :=
  ∀ table, view.ranges table → List.Forall₂ (view.RowsAgree table) (database table) (other table)

def ScopesAgree : Scope → Scope → Prop :=
  List.Forall₂ fun entry other => entry.1 = other.1 ∧ view.RowsAgree entry.1 entry.2 other.2

def EnvironmentsAgree : Environment → Environment → Prop :=
  List.Forall₂ view.ScopesAgree

def HasKeys (keys : List KeyPair) : Prop :=
  ∀ pair ∈ keys, view.sees pair.1 ∧ view.sees pair.2

def HasSource : Source → Prop
  | .table name => view.ranges name
  | .join left name on => HasSource left ∧ view.ranges name ∧ view.HasKeys on

/-- The view has all that a condition depends on. -/
def HasCondition : Condition → Prop
  | .compare field .. | .isNull field .. | .isTruth field .. | .between field .. | .span field ..
  | .among field .. | .like field .. => view.sees field
  | .related link inner =>
      (∀ source ∈ link.sources, view.HasSource source) ∧ view.HasKeys link.keys ∧ HasCondition inner

def HasSortKey (key : SortKey) : Prop :=
  view.sees key.field ∧ ∀ sources keys, key.subquery? = some (sources, keys) →
    (∀ source ∈ sources, view.HasSource source) ∧ view.HasKeys keys

structure HasQuery (query : Query) : Prop where
  root : view.ranges query.model.table.name
  condition : ∀ condition ∈ query.restrictions.flatMap conditionsOf, view.HasCondition condition
  term : ∀ term ∈ query.order, view.HasSortKey term.key

/-- A query without restrictions and order depends on the rows of its table only. -/
theorem HasQuery.plain {view : View} {model : Model} (ranged : view.ranges model.table.name) :
    view.HasQuery ⟨model, [], []⟩ :=
  ⟨ranged, by simp, by simp⟩

end View

section Agreement

variable {view : View} {database other : Database} {first second : Environment}

theorem View.ScopesAgree.lookup {scope otherScope : Scope}
    (agree : view.ScopesAgree scope otherScope) (table : String) :
    Option.Rel (view.RowsAgree table) (scope.lookup table) (otherScope.lookup table) := by
  induction agree with
  | nil => exact .none
  | @cons entry otherEntry rest otherRest entriesAgree _ inductionHypothesis =>
      obtain ⟨name, row⟩ := entry
      obtain ⟨otherName, otherRow⟩ := otherEntry
      obtain ⟨rfl, rowsAgree⟩ := entriesAgree
      simp only [List.lookup_cons]
      split
      · next same =>
          obtain rfl : table = name := by simpa using same
          exact .some rowsAgree
      · exact inductionHypothesis

theorem View.EnvironmentsAgree.row? (agree : view.EnvironmentsAgree first second)
    (table : String) :
    Option.Rel (view.RowsAgree table) (first.row? table) (second.row? table) := by
  induction agree with
  | nil => exact .none
  | @cons scope otherScope _ _ scopesAgree _ inductionHypothesis =>
      have nearest := scopesAgree.lookup table
      rw [Environment.row?_cons, Environment.row?_cons]
      generalize scope.lookup table = found at nearest ⊢
      generalize otherScope.lookup table = otherFound at nearest ⊢
      cases nearest with
      | none => exact inductionHypothesis
      | some rowsAgree => exact .some rowsAgree

theorem View.EnvironmentsAgree.cell_eq (agree : view.EnvironmentsAgree first second) {field : Field}
    (seen : view.sees field) : first.cell field = second.cell field := by
  have nearest := agree.row? field.table
  unfold Environment.cell
  generalize first.row? field.table = found at nearest ⊢
  generalize second.row? field.table = otherFound at nearest ⊢
  cases nearest with
  | none => rfl
  | some rowsAgree => exact rowsAgree field rfl seen

theorem View.EnvironmentsAgree.ofRow {table : String} {row otherRow : Row}
    (agree : view.RowsAgree table row otherRow) :
    view.EnvironmentsAgree (.ofRow table row) (.ofRow table otherRow) :=
  .cons (.cons ⟨rfl, agree⟩ .nil) .nil

theorem any_eq_of_forall₂ {Item Other : Type} {related : Item → Other → Prop} {items : List Item}
    {others : List Other} (all : List.Forall₂ related items others) {test : Item → Bool}
    {otherTest : Other → Bool}
    (same : ∀ item other, related item other → test item = otherTest other) :
    items.any test = others.any otherTest := by
  induction all with
  | nil => rfl
  | cons itemRelated _ inductionHypothesis =>
      rw [List.any_cons, List.any_cons, same _ _ itemRelated, inductionHypothesis]

/-- Lists that are related item by item stay so when they are sorted alike. -/
theorem forall₂_mergeSort {Item Other : Type} {related : Item → Other → Prop} {items : List Item}
    {others : List Other} (all : List.Forall₂ related items others) {before : Item → Item → Bool}
    {otherBefore : Other → Other → Bool}
    (same : ∀ item other next otherNext, related item other → related next otherNext →
      before item next = otherBefore other otherNext) :
    List.Forall₂ related (items.mergeSort before) (others.mergeSort otherBefore) := by
  -- Both lists are projections of one list of pairs, and its order projects to theirs.
  obtain ⟨sameLength, zipped⟩ := List.forall₂_iff_zip.mp all
  let pairs := items.zip others
  let pairBefore (pair next : Item × Other) : Bool := before pair.1 next.1
  have firsts : items.mergeSort before = (pairs.mergeSort pairBefore).map Prod.fst := by
    conv_lhs => rw [← List.map_fst_zip (Nat.le_of_eq sameLength)]
    refine (List.map_mergeSort ?_).symm
    exact fun _ _ _ _ => rfl
  have seconds : others.mergeSort otherBefore = (pairs.mergeSort pairBefore).map Prod.snd := by
    conv_lhs => rw [← List.map_snd_zip (Nat.le_of_eq sameLength.symm)]
    exact (List.map_mergeSort fun pair inPairs next nextInPairs =>
      same _ _ _ _ (zipped inPairs) (zipped nextInPairs)).symm
  rw [firsts, seconds, List.forall₂_map_left_iff, List.forall₂_map_right_iff, List.forall₂_same]
  exact fun pair member => zipped (List.mem_mergeSort.mp member)

variable (environmentsAgree : view.EnvironmentsAgree first second)

include environmentsAgree

theorem keysHold_eq {keys : List KeyPair} (has : view.HasKeys keys) :
    keysHold first keys = keysHold second keys := by
  unfold keysHold
  rw [Bool.eq_iff_iff, List.all_eq_true, List.all_eq_true]
  refine forall₂_congr fun pair member => ?_
  obtain ⟨nearSeen, farSeen⟩ := has pair member
  simp only [keyHolds, environmentsAgree.cell_eq nearSeen, environmentsAgree.cell_eq farSeen]

variable (agree : view.Agree database other)

include agree

theorem sourceRows_agree {source : Source} (has : view.HasSource source) :
    List.Forall₂ view.ScopesAgree (sourceRows database first source)
      (sourceRows other second source) := by
  induction source with
  | table name =>
      refine List.rel_map ?_ (agree name has)
      exact fun row otherRow rowsAgree => .cons ⟨rfl, rowsAgree⟩ .nil
  | join left name on inductionHypothesis =>
      obtain ⟨hasLeft, ranged, hasKeys⟩ := has
      refine List.rel_flatMap (inductionHypothesis hasLeft) fun scope otherScope scopesAgree => ?_
      refine List.rel_filter ?_ (List.rel_map ?_ (agree name ranged))
      · intro joined otherJoined joinedAgree
        rw [← Bool.eq_iff_iff]
        exact keysHold_eq (.cons joinedAgree environmentsAgree) hasKeys
      · exact fun row otherRow rowsAgree =>
          List.rel_append scopesAgree (.cons ⟨rfl, rowsAgree⟩ .nil)

theorem scopes_agree {sources : List Source} (has : ∀ source ∈ sources, view.HasSource source) :
    List.Forall₂ view.ScopesAgree (scopes database first sources)
      (scopes other second sources) := by
  induction sources with
  | nil => exact .cons .nil .nil
  | cons source rest inductionHypothesis =>
      rw [List.forall_mem_cons] at has
      refine List.rel_flatMap (sourceRows_agree environmentsAgree agree has.1) ?_
      exact fun scope otherScope scopesAgree =>
        List.rel_map (fun _ _ restAgree => List.rel_append scopesAgree restAgree)
          (inductionHypothesis has.2)

theorem truth_eq {condition : Condition} (has : view.HasCondition condition) :
    truth database first condition = truth other second condition := by
  induction condition generalizing first second with
  | related link inner inductionHypothesis =>
      -- The environments grow by scopes that agree, so the hypothesis is about all environments.
      obtain ⟨hasSources, hasKeys, hasInner⟩ := has
      refine congrArg some (any_eq_of_forall₂ (scopes_agree environmentsAgree agree hasSources) ?_)
      intro scope otherScope scopesAgree
      have within : view.EnvironmentsAgree (scope :: first) (otherScope :: second) :=
        .cons scopesAgree environmentsAgree
      rw [keysHold_eq within hasKeys, inductionHypothesis within hasInner]
  | _ =>
      have sameCell := environmentsAgree.cell_eq has
      simp only [truth, sameCell]

/-- A row has the same sort cell in both databases: the first linked row agrees too. -/
theorem sortCell_eq {key : SortKey} (has : view.HasSortKey key) :
    sortCell database first key = sortCell other second key := by
  obtain ⟨seen, hasSubquery⟩ := has
  unfold sortCell
  cases subquery : key.subquery? with
  | none => exact environmentsAgree.cell_eq seen
  | some ranged =>
      obtain ⟨sources, keys⟩ := ranged
      obtain ⟨hasSources, hasKeys⟩ := hasSubquery sources keys subquery
      have candidates : List.Forall₂ view.ScopesAgree
          ((scopes database first sources).filter fun scope => keysHold (scope :: first) keys)
          ((scopes other second sources).filter fun scope => keysHold (scope :: second) keys) := by
        refine List.rel_filter ?_ (scopes_agree environmentsAgree agree hasSources)
        intro scope otherScope scopesAgree
        rw [← Bool.eq_iff_iff]
        exact keysHold_eq (.cons scopesAgree environmentsAgree) hasKeys
      dsimp only
      generalize (scopes database first sources).filter _ = found at candidates ⊢
      generalize (scopes other second sources).filter _ = otherFound at candidates ⊢
      cases candidates with
      | nil => rfl
      | cons scopesAgree _ =>
          exact View.EnvironmentsAgree.cell_eq (.cons scopesAgree environmentsAgree) seen

end Agreement

section Results

variable {view : View} {database other : Database} {query : Query}
  (agree : view.Agree database other)

include agree

theorem notAfter_eq {table : String} {terms : List SortTerm}
    (has : ∀ term ∈ terms, view.HasSortKey term.key) {row otherRow next otherNext : Row}
    (rowsAgree : view.RowsAgree table row otherRow)
    (nextAgree : view.RowsAgree table next otherNext) :
    notAfter database table terms row next = notAfter other table terms otherRow otherNext := by
  induction terms with
  | nil => rfl
  | cons term rest inductionHypothesis =>
      rw [List.forall_mem_cons] at has
      simp only [notAfter, sortCell_eq (.ofRow rowsAgree) agree has.1,
        sortCell_eq (.ofRow nextAgree) agree has.1, inductionHypothesis has.2]

variable (has : view.HasQuery query)

include has

theorem meets_eq {restriction : Restriction} (member : restriction ∈ query.restrictions)
    {row otherRow : Row} (rowsAgree : view.RowsAgree query.model.table.name row otherRow) :
    meets database (.ofRow query.model.table.name row) restriction =
      meets other (.ofRow query.model.table.name otherRow) restriction := by
  have hasAll (condition : Condition) (inRestriction : condition ∈ conditionsOf restriction) :
      holds database (.ofRow query.model.table.name row) condition =
        holds other (.ofRow query.model.table.name otherRow) condition := by
    have inQuery := has.condition condition (List.mem_flatMap.mpr ⟨_, member, inRestriction⟩)
    rw [holds, holds, truth_eq (.ofRow rowsAgree) agree inQuery]
  cases restriction with
  | holds condition => exact hasAll condition (by simp [conditionsOf])
  | someOf conditions =>
      rw [meets, meets, Bool.eq_iff_iff, List.any_eq_true, List.any_eq_true]
      refine exists_congr fun condition => and_congr_right fun inGroup => ?_
      rw [hasAll condition inGroup]

theorem select_agree :
    List.Forall₂ (view.RowsAgree query.model.table.name) (select database query)
      (select other query) := by
  refine List.rel_filter ?_ (agree _ has.root)
  intro row otherRow rowsAgree
  beta_reduce
  rw [List.all_eq_true, List.all_eq_true]
  refine forall₂_congr fun restriction member => ?_
  rw [meets_eq agree has member rowsAgree]

/-- What a query gives on two databases agrees row by row, in its order. -/
theorem sorted_agree :
    List.Forall₂ (view.RowsAgree query.model.table.name) (sorted database query)
      (sorted other query) :=
  forall₂_mergeSort (select_agree agree has) fun _ _ _ _ => notAfter_eq agree has.term

theorem count_eq : count database query = count other query := by
  unfold count
  rw [(select_agree agree has).length_eq]

theorem rows_map_eq {Form : Type} {form : Row → Form}
    (sameForm : ∀ row otherRow, view.RowsAgree query.model.table.name row otherRow →
      form row = form otherRow) :
    (rows database query).map (·.map form) = (rows other query).map (·.map form) := by
  have sameSorted : (sorted database query).map form = (sorted other query).map form := by
    rw [← List.forall₂_eq_eq_eq, List.forall₂_map_left_iff, List.forall₂_map_right_iff]
    exact (sorted_agree agree has).imp sameForm
  unfold rows
  cases checkRestrictions query with
  | error failure => rfl
  | ok _ =>
      cases checkOrder query with
      | error failure => rfl
      | ok _ => exact congrArg Except.ok sameSorted

theorem slice_map_eq {Form : Type} {form : Row → Form}
    (sameForm : ∀ row otherRow, view.RowsAgree query.model.table.name row otherRow →
      form row = form otherRow) (offset limit : Int) :
    (slice database query offset limit).map (·.map form) =
      (slice other query offset limit).map (·.map form) := by
  have formed (source : Database) : (slice source query offset limit).map (·.map form) =
      rows source query >>= fun all =>
        if isWord limit && isWord offset then
          .ok (((all.map form).drop offset.toNat).take limit.toNat)
        else giveUp .hugeParameter := by
    unfold slice
    cases rows source query with
    | error failure => rfl
    | ok all =>
        simp only [bind, Except.bind]
        split
        · simp only [Except.map, List.map_take, List.map_drop]
        · rfl
  rw [formed, formed]
  apply bind_eq_bind_of_map_eq (rows_map_eq agree has sameForm)
  intro all others same
  rw [same]

theorem paginate_eq {form : Row → Value}
    (sameForm : ∀ row otherRow, view.RowsAgree query.model.table.name row otherRow →
      form row = form otherRow) (page : Page) :
    paginate database query page form = paginate other query page form := by
  unfold paginate
  rw [count_eq agree has]
  apply congrArg
  funext total
  apply bind_eq_bind_of_map_eq (slice_map_eq agree has sameForm page.offset page.perPage)
  intro found others same
  rw [same]

end Results

end GridQuery
