import GridQuery.Proofs.Descent
import GridQuery.Store.Names
import Mathlib.Data.List.Pairwise

/-!
The subquery of a sort key.  It starts at the table that the path leads to and
joins the tables before it one by one, so its scopes read a chain of linked rows
backwards.  When no table comes twice, the scopes are exactly the chains; when
every relation links a row to at most one other, there is at most one of them
for the row that is sorted.
-/

namespace GridQuery

open Store

/-- No two items of a list, at whatever places, are both good. -/
def AtMostOne {Item : Type} (items : List Item) (good : Item → Prop) : Prop :=
  items.Pairwise fun item other => ¬ (good item ∧ good other)

namespace AtMostOne

variable {Item : Type} {items kept : List Item} {good better : Item → Prop}

instance [DecidablePred good] : Decidable (AtMostOne items good) :=
  inferInstanceAs (Decidable (items.Pairwise _))

theorem eq (one : AtMostOne items good) {item other : Item} (member : item ∈ items)
    (otherMember : other ∈ items) (isGood : good item) (otherGood : good other) : item = other := by
  by_contra apart
  have symmetric : Std.Symm fun item other : Item => ¬ (good item ∧ good other) :=
    ⟨fun _ _ apart both => apart both.symm⟩
  exact one.forall member otherMember apart ⟨isGood, otherGood⟩

theorem imp (one : AtMostOne items good) (fewer : ∀ item ∈ items, better item → good item) :
    AtMostOne items better := by
  apply List.Pairwise.imp_of_mem _ one
  rintro item other member otherMember apart ⟨isBetter, otherBetter⟩
  exact apart ⟨fewer item member isBetter, fewer other otherMember otherBetter⟩

theorem length_le_one (one : AtMostOne items good) (among : kept.Sublist items)
    (allGood : ∀ item ∈ kept, good item) : kept.length ≤ 1 := by
  match kept, one.sublist among, allGood with
  | [], _, _ => simp
  | [_], _, _ => simp
  | first :: second :: _, apart, allGood =>
      have notBoth := (List.pairwise_cons.mp apart).1 second (by simp)
      exact absurd ⟨allGood first (by simp), allGood second (by simp)⟩ notBoth

end AtMostOne

def Linkage.LinksAtMostOne (database : Database) (link : Linkage) : Prop :=
  ∀ row ∈ database link.parent.table.name,
    AtMostOne (database link.target.table.name) (link.Links database row)

instance (database : Database) (link : Linkage) : Decidable (link.LinksAtMostOne database) :=
  inferInstanceAs (Decidable (∀ row ∈ database link.parent.table.name, AtMostOne _ _))

namespace SortKey

/-- The table of the sorted rows and the tables to which the relations lead. -/
def tables (root : String) (hops : List Linkage) : List String :=
  root :: hops.map (·.target.table.name)

def associations (hops : List Linkage) : List String :=
  hops.filterMap fun link => link.association.map (·.table)

end SortKey

namespace Walk

variable {start target : Model} {links : List Linkage}

theorem tables_chain (walk : Walk start links target) :
    (SortKey.chain target.table.name links).tables =
      (SortKey.tables start.table.name links).reverse := by
  induction walk with
  | stay model => rfl
  | @step link links target walk inductionHypothesis =>
      change (SortKey.chain target.table.name links).tables ++ [link.parent.table.name] = _
      rw [inductionHypothesis]
      simp [SortKey.tables]

theorem mem_tables_target (walk : Walk start links target) :
    target.table.name ∈ SortKey.tables start.table.name links := by
  induction walk with
  | stay model => simp [SortKey.tables]
  | step link walk inductionHypothesis =>
      exact List.mem_cons_of_mem _ inductionHypothesis

theorem mem_tables_of_mem (walk : Walk start links target) {link : Linkage}
    (member : link ∈ links) :
    link.parent.table.name ∈ SortKey.tables start.table.name links ∧
      link.target.table.name ∈ SortKey.tables start.table.name links := by
  induction walk with
  | stay model => simp at member
  | step first walk inductionHypothesis =>
      rcases List.mem_cons.mp member with rfl | inRest
      · simp [SortKey.tables]
      · obtain ⟨parentKnown, targetKnown⟩ := inductionHypothesis inRest
        exact ⟨List.mem_cons_of_mem _ parentKnown, List.mem_cons_of_mem _ targetKnown⟩

theorem target_eq_last (walk : Walk start links target) {first : Linkage}
    (before : first.target = start) : ((links.getLast?).getD first).target = target := by
  induction walk generalizing first with
  | stay model => exact before
  | step link walk inductionHypothesis =>
      rw [List.getLast?_cons]
      exact inductionHypothesis rfl

end Walk

namespace Store

/-- What the subquery of a sort key yields without its limit. -/
def candidates (database : Database) (environment : Environment) (key : SortKey) : List Scope :=
  match key.subquery? with
  | none => []
  | some (sources, keys) =>
      (scopes database environment sources).filter fun scope => keysHold (scope :: environment) keys

theorem sortCell_eq_candidates (database : Database) (environment : Environment) {key : SortKey}
    (behind : key.hops ≠ []) :
    sortCell database environment key =
      match candidates database environment key with
      | [] => .null
      | scope :: _ => Environment.cell (scope :: environment) key.field := by
  unfold sortCell candidates
  cases subquery : key.subquery? with
  | none =>
      unfold SortKey.subquery? at subquery
      cases hops : key.hops with
      | nil => exact absurd hops behind
      | cons first later => simp [hops] at subquery
  | some ranged =>
      obtain ⟨sources, keys⟩ := ranged
      rfl

theorem sourceRows_tables {database : Database} {environment : Environment} {source : Source}
    {scope : Scope} (member : scope ∈ sourceRows database environment source) :
    scope.map (·.1) = source.tables := by
  induction source generalizing scope with
  | table name =>
      obtain ⟨row, -, rfl⟩ := List.mem_map.mp member
      rfl
  | join left name on inductionHypothesis =>
      simp only [sourceRows, List.mem_flatMap, List.mem_filter, List.mem_map] at member
      obtain ⟨before, inLeft, ⟨row, -, rfl⟩, -⟩ := member
      rw [List.map_append, inductionHypothesis inLeft]
      rfl

theorem lookup_eq_none_of_not_mem {scope : Scope} {name : String}
    (absent : name ∉ scope.map (·.1)) : scope.lookup name = none := by
  rw [List.lookup_eq_none_iff]
  intro entry member
  rw [bne_iff_ne]
  rintro rfl
  exact absent (List.mem_map.mpr ⟨entry, member, rfl⟩)

theorem exists_lookup_of_mem {scope : Scope} {name : String} (member : name ∈ scope.map (·.1)) :
    ∃ row, scope.lookup name = some row := by
  rw [← Option.ne_none_iff_exists', ne_eq, List.lookup_eq_none_iff]
  intro unseen
  obtain ⟨entry, inScope, rfl⟩ := List.mem_map.mp member
  simpa using unseen entry inScope

theorem keysHold_joined_iff {link : Linkage}
    (between : KeysBetween link.keys link.parent.table.name link.target.table.name)
    {scope : Scope} {row next : Row} (absent : link.parent.table.name ∉ scope.map (·.1))
    (found : scope.lookup link.target.table.name = some next) (environment : Environment) :
    keysHold ((scope ++ [(link.parent.table.name, row)]) :: environment) link.keys = true ↔
      ∀ pair ∈ link.keys, pair.Agree row next := by
  apply keysHold_iff between
  · simp [List.lookup_append, lookup_eq_none_of_not_mem absent]
  · simp [List.lookup_append, found]

end Store

namespace Names

theorem keysResolve_iff {keys : List KeyPair} {near far : String}
    (between : KeysBetween keys near far) (tables : Tables) :
    keysResolve tables keys = true ↔ resolves tables near = true ∧ resolves tables far = true := by
  simp only [keysResolve, fieldResolves, List.all_eq_true, Bool.and_eq_true]
  constructor
  · intro resolved
    obtain ⟨pair, inKeys⟩ := List.exists_mem_of_ne_nil keys between.ne_nil
    have pairResolved := resolved pair inKeys
    rw [between.near_table pair inKeys, between.far_table pair inKeys] at pairResolved
    exact pairResolved
  · intro resolved pair inKeys
    rw [between.near_table pair inKeys, between.far_table pair inKeys]
    exact resolved

theorem sourceResolves_chain (tables : Tables) (target : String) (links : List Linkage) :
    sourceResolves tables (SortKey.chain target links) =
      links.all fun link => keysResolve tables link.keys := by
  induction links with
  | nil => rfl
  | cons link links inductionHypothesis =>
      change (sourceResolves tables (SortKey.chain target links) &&
        keysResolve tables link.keys) = _
      rw [inductionHypothesis, List.all_cons, Bool.and_comm]

theorem resolves_of_mem {scope : List String} (once : scope.Nodup) {name : String}
    (member : name ∈ scope) (outer : Tables) : resolves (scope :: outer) name = true := by
  simp [resolves, member, List.count_eq_one_of_mem once member]

theorem resolves_of_not_mem {scope : List String} {name : String} (absent : name ∉ scope)
    (outer : Tables) : resolves (scope :: outer) name = resolves outer name := by
  simp [resolves, absent]

end Names

namespace Linkage

theorem FollowsKeys.between {link : Linkage} (follows : link.FollowsKeys)
    (alone : link.association = none) :
    KeysBetween link.keys link.parent.table.name link.target.table.name := by
  cases follows with
  | direct _ keys _ => exact keys
  | through associated => simp [alone] at associated

theorem links_iff {link : Linkage} (alone : link.association = none) (database : Database)
    (row next : Row) : link.Links database row next ↔ ∀ pair ∈ link.keys, pair.Agree row next := by
  unfold Links
  rw [alone]

theorem LinksAtMostOne.next {link : Linkage} {database : Database}
    (single : link.LinksAtMostOne database) {good : Row → Prop}
    (one : AtMostOne (database link.parent.table.name) good) :
    AtMostOne (database link.target.table.name) fun next =>
      ∃ row ∈ database link.parent.table.name, good row ∧ link.Links database row next := by
  by_cases someGood : ∃ row ∈ database link.parent.table.name, good row
  · obtain ⟨row, stored, isGood⟩ := someGood
    apply (single row stored).imp
    rintro next _ ⟨other, otherStored, otherGood, linked⟩
    rwa [one.eq stored otherStored isGood otherGood]
  · apply List.pairwise_of_forall
    rintro next other ⟨⟨row, stored, isGood, -⟩, -⟩
    exact someGood ⟨row, stored, isGood⟩

end Linkage

theorem Chain.last_eq {database : Database} {start target : Model} {links : List Linkage}
    (walk : Walk start links target)
    (single : ∀ link ∈ links, link.LinksAtMostOne database) {row last otherLast : Row}
    (stored : row ∈ database start.table.name) (chain : Chain database links row last)
    (other : Chain database links row otherLast) : last = otherLast := by
  induction walk generalizing row with
  | stay model =>
      cases chain
      cases other
      rfl
  | step link walk inductionHypothesis =>
      cases chain with
      | step nextStored nextLinked rest =>
          cases other with
          | step otherStored otherLinked otherRest =>
              have same := (single link (by simp) _ stored).eq nextStored otherStored nextLinked
                otherLinked
              subst same
              exact inductionHypothesis (fun link inRest => single link (by simp [inRest]))
                nextStored rest otherRest

/-- A walk without association tables that comes to no table twice. -/
inductive StraightWalk : Model → List Linkage → Model → Prop
  | stay (model : Model) : StraightWalk model [] model
  | step {link : Linkage} {links : List Linkage} {target : Model}
      (alone : link.association = none)
      (between : KeysBetween link.keys link.parent.table.name link.target.table.name)
      (apart : link.parent.table.name ∉ SortKey.tables link.target.table.name links)
      (rest : StraightWalk link.target links target) :
      StraightWalk link.parent (link :: links) target

namespace StraightWalk

variable {database : Database} {environment : Environment} {start target : Model}
  {links : List Linkage}

theorem ofWalk (walk : Walk start links target) (follows : ∀ link ∈ links, link.FollowsKeys)
    (alone : ∀ link ∈ links, link.association = none)
    (once : (SortKey.tables start.table.name links).Nodup) : StraightWalk start links target := by
  induction walk with
  | stay model => exact .stay model
  | step link walk inductionHypothesis =>
      obtain ⟨apart, onceRest⟩ := List.nodup_cons.mp once
      rw [List.forall_mem_cons] at follows alone
      exact .step alone.1 (follows.1.between alone.1) apart
        (inductionHypothesis follows.2 alone.2 onceRest)

theorem walk (straight : StraightWalk start links target) : Walk start links target := by
  induction straight with
  | stay model => exact .stay model
  | step alone between apart rest inductionHypothesis => exact .step _ inductionHypothesis

theorem not_mem_scope (straight : StraightWalk start links target) {scope : Scope}
    (member : scope ∈ sourceRows database environment (SortKey.chain target.table.name links))
    {name : String} (absent : name ∉ SortKey.tables start.table.name links) :
    name ∉ scope.map (·.1) := by
  rw [sourceRows_tables member, straight.walk.tables_chain, List.mem_reverse]
  exact absent

/-- A relation before the walk joins each scope with the rows of its parent that are linked with the
row of its target. -/
theorem mem_joined_iff {link : Linkage} (alone : link.association = none)
    (between : KeysBetween link.keys link.parent.table.name link.target.table.name)
    (apart : link.parent.table.name ∉ SortKey.tables link.target.table.name links)
    (rest : StraightWalk link.target links target) {before scope : Scope}
    (inBefore : before ∈ sourceRows database environment (SortKey.chain target.table.name links)) :
    scope ∈ (((database link.parent.table.name).map fun row =>
        before ++ [(link.parent.table.name, row)]).filter fun joined =>
          keysHold (joined :: environment) link.keys) ↔
      ∃ row ∈ database link.parent.table.name, scope = before ++ [(link.parent.table.name, row)] ∧
        ∃ next ∈ before.lookup link.target.table.name, link.Links database row next := by
  have absent := rest.not_mem_scope inBefore apart
  have targetJoined : link.target.table.name ∈ before.map (·.1) := by
    rw [sourceRows_tables inBefore, rest.walk.tables_chain]
    simp [SortKey.tables]
  obtain ⟨next, nextFound⟩ := exists_lookup_of_mem targetJoined
  have agree (row : Row) :
      keysHold ((before ++ [(link.parent.table.name, row)]) :: environment) link.keys = true ↔
        link.Links database row next := by
    rw [keysHold_joined_iff between absent nextFound, Linkage.links_iff alone]
  simp only [List.mem_filter, List.mem_map, nextFound, Option.mem_some_iff, exists_eq_left']
  constructor
  · rintro ⟨⟨row, stored, rfl⟩, holds⟩
    exact ⟨row, stored, rfl, (agree row).mp holds⟩
  · rintro ⟨row, stored, rfl, linked⟩
    exact ⟨⟨row, stored, rfl⟩, (agree row).mpr linked⟩

/-- A scope of the joined tables is a chain of linked rows, read backwards. -/
theorem chain_of_mem_sourceRows (straight : StraightWalk start links target) {scope : Scope}
    (member : scope ∈ sourceRows database environment (SortKey.chain target.table.name links)) :
    ∃ row last, row ∈ database start.table.name ∧ Chain database links row last ∧
      scope.lookup start.table.name = some row ∧ scope.lookup target.table.name = some last := by
  induction straight generalizing scope with
  | stay model =>
      obtain ⟨row, stored, rfl⟩ := List.mem_map.mp member
      exact ⟨row, row, stored, .stay row, by simp, by simp⟩
  | step alone between apart rest inductionHypothesis =>
      obtain ⟨before, inBefore, joined⟩ := List.mem_flatMap.mp member
      obtain ⟨row, stored, rfl, next, nextFound, linked⟩ :=
        (mem_joined_iff alone between apart rest inBefore).mp joined
      obtain ⟨other, last, nextStored, chain, otherFound, lastFound⟩ := inductionHypothesis inBefore
      obtain rfl : other = next := Option.some.inj (otherFound.symm.trans nextFound)
      refine ⟨row, last, stored, .step nextStored linked chain, ?_, ?_⟩
      · simp [List.lookup_append, lookup_eq_none_of_not_mem (rest.not_mem_scope inBefore apart)]
      · simp [List.lookup_append, lastFound]

theorem exists_mem_sourceRows (straight : StraightWalk start links target) {row last : Row}
    (stored : row ∈ database start.table.name) (chain : Chain database links row last) :
    ∃ scope ∈ sourceRows database environment (SortKey.chain target.table.name links),
      scope.lookup start.table.name = some row ∧ scope.lookup target.table.name = some last := by
  induction straight generalizing row with
  | stay model =>
      cases chain
      exact ⟨_, List.mem_map.mpr ⟨last, stored, rfl⟩, by simp, by simp⟩
  | step alone between apart rest inductionHypothesis =>
      cases chain with
      | step nextStored linked chain =>
          obtain ⟨before, inBefore, nextFound, lastFound⟩ := inductionHypothesis nextStored chain
          refine ⟨_, List.mem_flatMap.mpr ⟨before, inBefore,
            (mem_joined_iff alone between apart rest inBefore).mpr
              ⟨row, stored, rfl, _, nextFound, linked⟩⟩, ?_, ?_⟩
          · simp [List.lookup_append, lookup_eq_none_of_not_mem (rest.not_mem_scope inBefore apart)]
          · simp [List.lookup_append, lastFound]

/-- Where one row at most of the first table is good and every relation links a row with one other
at most, one scope at most of the joined tables begins in a good row. -/
theorem atMostOne_sourceRows (straight : StraightWalk start links target)
    (single : ∀ link ∈ links, link.LinksAtMostOne database) {good : Row → Prop}
    (one : AtMostOne (database start.table.name) good) :
    AtMostOne (sourceRows database environment (SortKey.chain target.table.name links))
      fun scope => ∃ row ∈ scope.lookup start.table.name, good row := by
  induction straight generalizing good with
  | stay model =>
      change (List.map _ _).Pairwise _
      rw [List.pairwise_map]
      apply one.imp
      simp
  | @step link links target alone between apart rest inductionHypothesis =>
      rw [List.forall_mem_cons] at single
      have oneBefore := inductionHypothesis single.2 (single.1.next one)
      have first {before : Scope} (row : Row) (inBefore : before ∈ sourceRows database environment
          (SortKey.chain target.table.name links)) :
          (before ++ [(link.parent.table.name, row)]).lookup link.parent.table.name = some row := by
        simp [List.lookup_append, lookup_eq_none_of_not_mem (rest.not_mem_scope inBefore apart)]
      change (List.flatMap _ _).Pairwise _
      rw [List.pairwise_flatMap]
      constructor
      · -- Two rows that join one scope are not both good.
        intro before inBefore
        apply List.Pairwise.filter
        rw [List.pairwise_map]
        apply one.imp
        intro row _
        simp [first row inBefore]
      · -- Two scopes are not both joined by good rows: each begins in a row linked with a good one.
        apply List.Pairwise.imp_of_mem _ oneBefore
        intro before other inBefore inOther notBoth scope joined otherScope otherJoined
        obtain ⟨row, stored, rfl, next, nextFound, linked⟩ :=
          (mem_joined_iff alone between apart rest inBefore).mp joined
        obtain ⟨otherRow, otherStored, rfl, otherNext, otherFound, otherLinked⟩ :=
          (mem_joined_iff alone between apart rest inOther).mp otherJoined
        simp only [first, inBefore, inOther, Option.mem_some_iff, exists_eq_left']
        rintro ⟨isGood, otherGood⟩
        exact notBoth ⟨⟨next, nextFound, row, stored, isGood, linked⟩,
          otherNext, otherFound, otherRow, otherStored, otherGood, otherLinked⟩

end StraightWalk

end GridQuery
