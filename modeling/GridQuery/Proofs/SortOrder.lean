import GridQuery.Ordering
import GridQuery.Proofs.CellOrder
import GridQuery.Proofs.Resolution
import GridQuery.Proofs.Sample
import GridQuery.Proofs.Selection
import GridQuery.Proofs.SortPath
import GridQuery.Sample.Rows

/-!
Sorting along relations.  Where a path goes from table to table and none comes
twice, the subquery of its sort key finds the row at the end of the chain from
the row that is sorted, or none.  So a query is ordered by the values at the
ends of the chains, with the rows whose chain is broken among the nulls; the
order takes none of them away.
-/

namespace GridQuery

open Store

namespace SortKey

/-- A key over relations that lead from one model to another, to a column of the latter. -/
structure Leads (key : SortKey) (root target : Model) : Prop where
  walk : Walk root key.hops target
  ofTarget : key.field.table = target.table.name
  follows : ∀ link ∈ key.hops, link.FollowsKeys

/-- A key over relations without association tables, whose tables are all different. -/
structure Straight (key : SortKey) (root target : Model) : Prop extends Leads key root target where
  alone : ∀ link ∈ key.hops, link.association = none
  once : (tables root.table.name key.hops).Nodup

/-- The value that a row is to be sorted by: that of the row at the end of the chain, and null when
the chain is broken. -/
inductive Yields (database : Database) (key : SortKey) (row : Row) : Cell → Prop
  | linked {last : Row} (chain : Chain database key.hops row last) :
      Yields database key row (last key.field.column.name)
  | broken (broken : ∀ last, ¬ Chain database key.hops row last) : Yields database key row .null

section

variable {database : Database} {key : SortKey} {root target : Model} {first : Linkage}
  {later : List Linkage}

theorem Leads.walk_later (leads : key.Leads root target) (hops : key.hops = first :: later) :
    root = first.parent ∧ Walk first.target later target := by
  have walk := leads.walk
  rw [hops] at walk
  cases walk with
  | step _ rest => exact ⟨rfl, rest⟩

theorem Leads.subquery?_eq (leads : key.Leads root target) (hops : key.hops = first :: later) :
    key.subquery? = some ((chain target.table.name later).withMentioned first.keys root.table.name,
      first.keys) := by
  obtain ⟨rfl, walk⟩ := leads.walk_later hops
  simp only [subquery?, hops, walk.target_eq_last rfl]

theorem Leads.mem_chain_tables_iff (leads : key.Leads root target)
    (hops : key.hops = first :: later) {name : String} :
    name ∈ (chain target.table.name later).tables ↔
      name ∈ tables first.target.table.name later := by
  rw [(leads.walk_later hops).2.tables_chain, List.mem_reverse]

namespace Straight

theorem once_later (straight : key.Straight root target) (hops : key.hops = first :: later) :
    root.table.name ∉ tables first.target.table.name later ∧
      (tables first.target.table.name later).Nodup := by
  have once := straight.once
  rw [hops] at once
  exact List.nodup_cons.mp once

theorem straightWalk_later (straight : key.Straight root target)
    (hops : key.hops = first :: later) : StraightWalk first.target later target := by
  have follows := straight.follows
  have alone := straight.alone
  rw [hops, List.forall_mem_cons] at follows alone
  exact .ofWalk (straight.walk_later hops).2 follows.2 alone.2 (straight.once_later hops).2

theorem sources_eq (straight : key.Straight root target) (hops : key.hops = first :: later) :
    key.subquery? = some ([chain target.table.name later], first.keys) := by
  obtain ⟨rfl, -⟩ := straight.walk_later hops
  obtain ⟨rootApart, -⟩ := straight.once_later hops
  have inHops : first ∈ key.hops := by simp [hops]
  have between := (straight.follows first inHops).between (straight.alone first inHops)
  have kept : chain target.table.name later ≠ .table first.parent.table.name := by
    intro isRoot
    apply rootApart
    rw [← straight.mem_chain_tables_iff hops, isRoot]
    simp [Source.tables]
  rw [straight.toLeads.subquery?_eq hops, Source.withMentioned_eq between
    ((straight.mem_chain_tables_iff hops).mpr (by simp [tables]))]
  simp [kept]

theorem mem_candidates_iff (straight : key.Straight root target) (hops : key.hops = first :: later)
    {row : Row} {scope : Scope} :
    scope ∈ candidates database (.ofRow root.table.name row) key ↔
      scope ∈ sourceRows database (.ofRow root.table.name row) (chain target.table.name later) ∧
        ∃ next ∈ scope.lookup first.target.table.name, first.Links database row next := by
  obtain ⟨rfl, -⟩ := straight.walk_later hops
  have walk := straight.straightWalk_later hops
  have alone := straight.alone first (by simp [hops])
  have between := (straight.follows first (by simp [hops])).between alone
  simp only [candidates, straight.sources_eq hops, scopes_singleton, List.mem_filter]
  apply and_congr_right
  intro member
  obtain ⟨next, -, -, -, nextFound, -⟩ := walk.chain_of_mem_sourceRows member
  have rootUnseen :=
    lookup_eq_none_of_not_mem (walk.not_mem_scope member (straight.once_later hops).1)
  have agree : keysHold (scope :: Environment.ofRow first.parent.table.name row) first.keys = true ↔
      ∀ pair ∈ first.keys, pair.Agree row next := by
    apply keysHold_iff between
    · simp [rootUnseen, Environment.row?_ofRow]
    · simp [nextFound]
  rw [agree, ← Linkage.links_iff alone database]
  simp [nextFound]

/-- A candidate shows the end of a chain from the row that is sorted. -/
theorem chain_of_mem_candidates (straight : key.Straight root target)
    (hops : key.hops = first :: later) {row : Row} {scope : Scope}
    (member : scope ∈ candidates database (.ofRow root.table.name row) key) :
    ∃ last, Chain database key.hops row last ∧ scope.lookup target.table.name = some last := by
  obtain ⟨inJoined, next, nextFound, linked⟩ := (straight.mem_candidates_iff hops).mp member
  obtain ⟨other, last, nextStored, chain, otherFound, lastFound⟩ :=
    (straight.straightWalk_later hops).chain_of_mem_sourceRows inJoined
  obtain rfl : other = next := Option.some.inj (otherFound.symm.trans nextFound)
  rw [hops]
  exact ⟨last, .step nextStored linked chain, lastFound⟩

theorem exists_mem_candidates (straight : key.Straight root target)
    (hops : key.hops = first :: later) {row last : Row} (chain : Chain database key.hops row last) :
    ∃ scope ∈ candidates database (.ofRow root.table.name row) key,
      scope.lookup target.table.name = some last := by
  rw [hops] at chain
  cases chain with
  | step nextStored linked rest =>
      obtain ⟨scope, inJoined, nextFound, lastFound⟩ :=
        (straight.straightWalk_later hops).exists_mem_sourceRows nextStored rest
      have candidate := (straight.mem_candidates_iff hops).mpr ⟨inJoined, _, nextFound, linked⟩
      exact ⟨scope, candidate, lastFound⟩

theorem length_candidates_le_one (straight : key.Straight root target)
    (hops : key.hops = first :: later)
    (single : ∀ link ∈ key.hops, link.LinksAtMostOne database) {row : Row}
    (stored : row ∈ database root.table.name) :
    (candidates database (.ofRow root.table.name row) key).length ≤ 1 := by
  obtain ⟨rfl, -⟩ := straight.walk_later hops
  rw [hops, List.forall_mem_cons] at single
  have one : AtMostOne (sourceRows database (.ofRow first.parent.table.name row)
      (chain target.table.name later)) fun scope =>
        ∃ next ∈ scope.lookup first.target.table.name, first.Links database row next :=
    (straight.straightWalk_later hops).atMostOne_sourceRows single.2 (single.1 row stored)
  apply one.length_le_one
  · simp only [candidates, straight.sources_eq hops, scopes_singleton]
    exact List.filter_sublist
  · intro scope member
    exact ((straight.mem_candidates_iff hops).mp member).2

theorem keyResolves (straight : key.Straight root target) :
    Names.keyResolves [[root.table.name]] key = true := by
  cases hops : key.hops with
  | nil =>
      have walk := straight.walk
      rw [hops] at walk
      cases walk
      simp [Names.keyResolves, subquery?, hops, Names.fieldResolves, straight.ofTarget,
        Names.resolves]
  | cons first later =>
      obtain ⟨rfl, walk⟩ := straight.walk_later hops
      obtain ⟨rootApart, onceLater⟩ := straight.once_later hops
      let inSight : Names.Tables :=
        [(chain target.table.name later).tables, [first.parent.table.name]]
      have onceJoined : (chain target.table.name later).tables.Nodup := by
        rwa [walk.tables_chain, List.nodup_reverse]
      -- The first table is seen in the query around, every other one in the subquery, once each.
      have tableResolves {name : String} (onPath : name ∈ tables first.parent.table.name key.hops) :
          Names.resolves inSight name = true := by
        rw [hops] at onPath
        rcases List.mem_cons.mp onPath with rfl | inLater
        · rw [Names.resolves_of_not_mem (mt (straight.mem_chain_tables_iff hops).mp rootApart)]
          simp [Names.resolves]
        · have joined := (straight.mem_chain_tables_iff hops).mpr inLater
          exact Names.resolves_of_mem onceJoined joined _
      have linkResolves : ∀ link ∈ key.hops, Names.keysResolve inSight link.keys = true := by
        intro link inHops
        obtain ⟨parentOnPath, targetOnPath⟩ := straight.walk.mem_tables_of_mem inHops
        rw [Names.keysResolve_iff
          ((straight.follows link inHops).between (straight.alone link inHops))]
        exact ⟨tableResolves parentOnPath, tableResolves targetOnPath⟩
      simp only [Names.keyResolves, straight.sources_eq hops, Names.subqueryResolves,
        Names.within, List.flatMap_cons, List.flatMap_nil, List.append_nil, List.all_cons,
        List.all_nil, Bool.and_true, Names.sourceResolves_chain, Bool.and_eq_true, List.all_eq_true]
      refine ⟨⟨?_, ?_⟩, ?_⟩
      · intro link inLater
        exact linkResolves link (by simp [hops, inLater])
      · exact linkResolves first (by simp [hops])
      · rw [Names.fieldResolves, straight.ofTarget]
        exact tableResolves straight.walk.mem_tables_target

theorem yields_sortCell (straight : key.Straight root target) (row : Row) :
    key.Yields database row (sortCell database (.ofRow root.table.name row) key) := by
  cases hops : key.hops with
  | nil =>
      have walk := straight.walk
      rw [hops] at walk
      cases walk
      have ofRoot : sortCell database (.ofRow root.table.name row) key =
          row key.field.column.name := by
        simp only [sortCell, subquery?, hops]
        apply Environment.cell_of_row?
        rw [straight.ofTarget, Environment.row?_ofRow]
      rw [ofRoot]
      apply Yields.linked
      rw [hops]
      exact Chain.stay row
  | cons first later =>
      rw [sortCell_eq_candidates database _ (by simp [hops])]
      cases found : candidates database (.ofRow root.table.name row) key with
      | nil =>
          apply Yields.broken
          intro last chain
          obtain ⟨scope, member, -⟩ := straight.exists_mem_candidates hops chain
          simp [found] at member
      | cons scope others =>
          have member : scope ∈ candidates database (.ofRow root.table.name row) key := by
            simp [found]
          obtain ⟨last, chain, lastFound⟩ := straight.chain_of_mem_candidates hops member
          have ofLast :
              Environment.cell (scope :: Environment.ofRow root.table.name row) key.field =
                last key.field.column.name := by
            apply Environment.cell_of_row?
            simp [straight.ofTarget, lastFound]
          change key.Yields database row
            (Environment.cell (scope :: Environment.ofRow root.table.name row) key.field)
          rw [ofLast]
          exact .linked chain

theorem yields_unique (straight : key.Straight root target)
    (single : ∀ link ∈ key.hops, link.LinksAtMostOne database) {row : Row}
    (stored : row ∈ database root.table.name) {cell other : Cell}
    (yields : key.Yields database row cell) (yieldsOther : key.Yields database row other) :
    cell = other := by
  cases yields with
  | linked chain =>
      cases yieldsOther with
      | linked otherChain => rw [Chain.last_eq straight.walk single stored chain otherChain]
      | broken broken => exact absurd chain (broken _)
  | broken broken =>
      cases yieldsOther with
      | linked chain => exact absurd chain (broken _)
      | broken => rfl

theorem yields_iff (straight : key.Straight root target)
    (single : ∀ link ∈ key.hops, link.LinksAtMostOne database) {row : Row}
    (stored : row ∈ database root.table.name) (cell : Cell) :
    key.Yields database row cell ↔ sortCell database (.ofRow root.table.name row) key = cell := by
  constructor
  · exact straight.yields_unique single stored (straight.yields_sortCell row)
  · rintro rfl
    exact straight.yields_sortCell row

end Straight

end

end SortKey

namespace SortTerm

/-- Two values stand in the order that a term asks for. -/
def InOrder (term : SortTerm) (first second : Cell) : Prop :=
  if term.descending then Cell.order first second ≠ .lt else Cell.order first second ≠ .gt

theorem inOrder_iff (term : SortTerm) (first second : Cell) :
    term.InOrder first second ↔
      if term.descending then second.place ≤ first.place else first.place ≤ second.place := by
  unfold InOrder
  split
  · rw [← Cell.order_ne_gt_iff, ← Cell.order_swap first second]
    cases Cell.order first second <;> simp
  · rw [Cell.order_ne_gt_iff]

theorem notAfter_iff (database : Database) (table : String) (term : SortTerm) (row next : Row) :
    notAfter database table [term] row next = true ↔
      term.InOrder (sortCell database (.ofRow table row) term.key)
        (sortCell database (.ofRow table next) term.key) := by
  simp only [notAfter, InOrder]
  cases Cell.order (sortCell database (.ofRow table row) term.key)
    (sortCell database (.ofRow table next) term.key) <;> cases term.descending <;> simp

theorem pairwise_mergeSort (database : Database) (table : String) (term : SortTerm)
    (rows : List Row) :
    (rows.mergeSort (notAfter database table [term])).Pairwise fun row next =>
      term.InOrder (sortCell database (.ofRow table row) term.key)
        (sortCell database (.ofRow table next) term.key) := by
  simp only [← notAfter_iff]
  -- The places of the cells are in a linear order, so one term orders all rows.
  apply List.pairwise_mergeSort
  · intro first second third
    simp only [notAfter_iff, inOrder_iff]
    split
    · exact fun later laterStill => laterStill.trans later
    · exact fun later laterStill => later.trans laterStill
  · intro first second
    simp only [Bool.or_eq_true, notAfter_iff, inOrder_iff]
    split <;> exact le_total _ _

end SortTerm

section Sorting

variable {registry : Registry} {options : QueryOptions} {clause : SortClause} {term : SortTerm}

theorem SortKey.leads_of_ofClause (derived : registry.IsDerived)
    (sound : registry.schema.Sound) {model : Model} (known : model ∈ registry.schema.models)
    (accepted : SortTerm.ofClause registry options model clause = .ok term) :
    ∃ target, term.key.Leads model target := by
  obtain ⟨path, resolved, -, rfl⟩ := SortTerm.ofClause_eq_ok accepted
  obtain ⟨target, walk, ofTarget, follows⟩ :=
    FieldPath.resolve_isWalk derived sound known resolved
  exact ⟨target, walk, ofTarget, follows⟩

/-- A sort that needs no association table and comes to no table twice orders the rows of a query by
the values at the ends of their chains, those whose chain is broken as nulls, and keeps all of
them. -/
theorem sort_follows_chains (derived : registry.IsDerived) (sound : registry.schema.Sound)
    {query : Query} (known : query.model ∈ registry.schema.models) (unordered : query.order = [])
    (accepted : SortTerm.ofClause registry options query.model clause = .ok term)
    (alone : ∀ link ∈ term.key.hops, link.association = none)
    (once : (SortKey.tables query.model.table.name term.key.hops).Nodup)
    {database : Database} (single : ∀ link ∈ term.key.hops, link.LinksAtMostOne database) :
    (∀ row ∈ database query.model.table.name, ∀ cell,
      term.key.Yields database row cell ↔
        sortCell database (.ofRow query.model.table.name row) term.key = cell) ∧
    (∀ cell ≠ .null, Cell.order .null cell = .lt) ∧
    ∀ before, rows database query = .ok before →
      ∃ found, rows database (query.orderBy term) = .ok found ∧ found.Perm before ∧
        found.Pairwise fun row next => ∀ cell nextCell, term.key.Yields database row cell →
          term.key.Yields database next nextCell → term.InOrder cell nextCell := by
  obtain ⟨target, leads⟩ := SortKey.leads_of_ofClause derived sound known accepted
  have straight : term.key.Straight query.model target := ⟨leads, alone, once⟩
  refine ⟨fun row stored => straight.yields_iff single stored, ?_, ?_⟩
  · intro cell given
    exact Cell.order_null_eq_lt given
  intro before executed
  obtain ⟨restrictionsTaken, -, rfl⟩ := rows_eq_ok_iff.mp executed
  have orderedBy : (query.orderBy term).order = [term] := by simp [Query.orderBy, unordered]
  have orderTaken : checkOrder (query.orderBy term) = .ok () := by
    rw [checkOrder_eq_ok_iff, orderedBy]
    intro other member
    obtain rfl : other = term := by simpa using member
    exact straight.keyResolves
  have executedSo : rows database (query.orderBy term) =
      .ok (sorted database (query.orderBy term)) :=
    rows_eq_ok_iff.mpr ⟨restrictionsTaken, orderTaken, rfl⟩
  refine ⟨_, executedSo, ?_, ?_⟩
  · exact (rows_perm_select executedSo).trans (rows_perm_select executed).symm
  · have inOrder : (sorted database (query.orderBy term)).Pairwise fun row next =>
        term.InOrder (sortCell database (.ofRow query.model.table.name row) term.key)
          (sortCell database (.ofRow query.model.table.name next) term.key) := by
      unfold sorted
      rw [orderedBy]
      exact SortTerm.pairwise_mergeSort database query.model.table.name term _
    apply inOrder.imp_of_mem
    intro row next member nextMember inOrder cell nextCell yields nextYields
    have stored {row : Row} (member : row ∈ sorted database (query.orderBy term)) :
        row ∈ database query.model.table.name :=
      List.mem_of_mem_filter ((rows_perm_select executedSo).mem_iff.mp member)
    rw [straight.yields_iff single (stored member)] at yields
    rw [straight.yields_iff single (stored nextMember)] at nextYields
    rwa [yields, nextYields] at inOrder

/-- The posts, from the last company of an author to the first; the posts whose author has none and
the one without an author come at the end. -/
theorem sort_follows_chains_posts :
    ∃ term, SortTerm.ofClause (.ofSchema Sample.schema) {} Sample.post
        ⟨"author.company.name", true⟩ = .ok term ∧
      ∃ found, rows Sample.database (Query.orderBy ⟨Sample.post, [], []⟩ term) = .ok found ∧
        found.Perm Sample.posts ∧
        found.Pairwise fun row next => ∀ cell nextCell,
          term.key.Yields Sample.database row cell →
            term.key.Yields Sample.database next nextCell → term.InOrder cell nextCell := by
  let query : Query := ⟨Sample.post, [], []⟩
  let hops := [Sample.refersTo "author" Sample.post "author_id" Sample.author,
    Sample.refersTo "company" Sample.author "company_id" Sample.company]
  have known : query.model ∈ Sample.schema.models := by decide +kernel
  have unordered : query.order = [] := rfl
  have accepted : SortTerm.ofClause (.ofSchema Sample.schema) {} query.model
      ⟨"author.company.name", true⟩ =
        .ok ⟨⟨hops, ⟨"companies", Sample.column "name" .text⟩⟩, true⟩ := by decide +kernel
  have single : ∀ link ∈ hops, link.LinksAtMostOne Sample.database := by decide +kernel
  have executed : rows Sample.database query = .ok (sorted Sample.database query) :=
    rows_eq_ok_iff.mpr ⟨rfl, rfl, rfl⟩
  have allPosts : select Sample.database query = Sample.posts := by
    unfold select
    apply List.filter_eq_self.mpr
    intro row _
    rfl
  obtain ⟨-, -, sortedSo⟩ := sort_follows_chains (Registry.isDerived_ofSchema Sample.schema)
    Sample.schema_sound known unordered accepted (by decide) (by decide) single
  obtain ⟨found, executedSo, permuted, inOrder⟩ := sortedSo _ executed
  refine ⟨_, accepted, found, executedSo, ?_, inOrder⟩
  rw [← allPosts]
  exact permuted.trans (rows_perm_select executed)

end Sorting

end GridQuery
