import GridQuery.Filter
import GridQuery.Proofs.Cell
import GridQuery.Proofs.Walk

/-!
Chains of linked rows, and the nested subqueries that look for them.  A
subquery over a relation of one table with another finds exactly the rows that
are linked with the nearest row of the parent; hence a condition behind a walk
of such relations is true of a row exactly when a chain leads from it to a row
of which the condition is true.
-/

namespace GridQuery

open Store

/-- The two cells of a key pair are equal, as its columns read them; null equals nothing. -/
def KeyPair.Agree (pair : KeyPair) (near far : Row) : Prop :=
  let affinity := sharedAffinity (affinityOf pair.1.column.kind) (affinityOf pair.2.column.kind)
  near pair.1.column.name ≠ .null ∧ far pair.2.column.name ≠ .null ∧
    Cell.order ((near pair.1.column.name).read affinity)
      ((far pair.2.column.name).read affinity) = .eq

instance (pair : KeyPair) (near far : Row) : Decidable (pair.Agree near far) :=
  inferInstanceAs (Decidable (_ ∧ _ ∧ _))

/-- A row of the target is linked with a row of the parent: all key pairs agree, where there is an
association table through one of its rows. -/
def Linkage.Links (database : Database) (link : Linkage) (row next : Row) : Prop :=
  match link.association with
  | none => ∀ pair ∈ link.keys, pair.Agree row next
  | some association =>
      ∃ middle ∈ database association.table,
        (∀ pair ∈ link.keys, pair.Agree row middle) ∧
          ∀ pair ∈ association.keys, pair.Agree next middle

instance (database : Database) (link : Linkage) (row next : Row) :
    Decidable (link.Links database row next) :=
  match link with
  | ⟨_, _, _, _, keys, none⟩ => inferInstanceAs (Decidable (∀ pair ∈ keys, pair.Agree row next))
  | ⟨_, _, _, _, keys, some association⟩ =>
      inferInstanceAs (Decidable (∃ middle ∈ database association.table,
        (∀ pair ∈ keys, pair.Agree row middle) ∧
          ∀ pair ∈ association.keys, pair.Agree next middle))

/-- Rows lead from one to another over some relations, each linked with the one before. -/
inductive Chain (database : Database) : List Linkage → Row → Row → Prop
  | stay (row : Row) : Chain database [] row row
  | step {link : Linkage} {links : List Linkage} {row next last : Row} :
      next ∈ database link.target.table.name → link.Links database row next →
        Chain database links next last → Chain database (link :: links) row last

def Condition.field? : Condition → Option Field
  | .compare field .. | .isNull field .. | .isTruth field .. | .between field .. | .span field ..
  | .among field .. | .like field .. => some field
  | .related .. => none

namespace Environment

@[simp] theorem row?_cons (scope : Scope) (environment : Environment) (table : String) :
    row? (scope :: environment) table = (scope.lookup table).or (environment.row? table) := by
  simp only [row?, List.findSome?_cons]
  cases scope.lookup table <;> rfl

theorem row?_ofRow (table : String) (row : Row) : (ofRow table row).row? table = some row := by
  simp [ofRow]

theorem cell_of_row? {environment : Environment} {field : Field} {row : Row}
    (nearest : environment.row? field.table = some row) :
    environment.cell field = row field.column.name := by
  simp [cell, nearest]

end Environment

namespace Store

theorem keyHolds_iff {environment : Environment} {pair : KeyPair} {near far : Row}
    (nearRow : environment.row? pair.1.table = some near)
    (farRow : environment.row? pair.2.table = some far) :
    keyHolds environment pair = true ↔ pair.Agree near far := by
  simp only [keyHolds, Environment.cell_of_row? nearRow, Environment.cell_of_row? farRow,
    compareCells, Cell.order?, KeyPair.Agree, Cell.read_eq_null_iff]
  split
  · next someNull =>
      simp only [Option.map_none, Truth.isTrue]
      tauto
  · next noNull =>
      simp only [Option.map_some, Truth.isTrue, Comparison.test]
      have bothGiven := not_or.mp noNull
      simp [bothGiven.1, bothGiven.2]

theorem keysHold_iff {environment : Environment} {keys : List KeyPair} {near far : String}
    (between : KeysBetween keys near far) {nearRow farRow : Row}
    (nearest : environment.row? near = some nearRow)
    (farthest : environment.row? far = some farRow) :
    keysHold environment keys = true ↔ ∀ pair ∈ keys, pair.Agree nearRow farRow := by
  simp only [keysHold, List.all_eq_true]
  refine forall₂_congr fun pair member => ?_
  apply keyHolds_iff
  · rw [between.near_table pair member]; exact nearest
  · rw [between.far_table pair member]; exact farthest

/-- A condition about one column depends on the nearest row of its table only. -/
theorem truth_eq_of_row? {database other : Database} {first second : Environment}
    {condition : Condition} {field : Field} (about : condition.field? = some field)
    (sameRow : first.row? field.table = second.row? field.table) :
    truth database first condition = truth other second condition := by
  have sameCell : first.cell field = second.cell field := by
    simp only [Environment.cell, sameRow]
  cases condition with
  | related link inner => simp [Condition.field?] at about
  | _ =>
      simp only [Condition.field?, Option.some.injEq] at about
      subst about
      simp only [truth, sameCell]

@[simp] theorem scopes_nil (database : Database) (environment : Environment) :
    scopes database environment [] = [[]] := rfl

@[simp] theorem scopes_singleton (database : Database) (environment : Environment)
    (source : Source) :
    scopes database environment [source] = sourceRows database environment source := by
  simp [scopes]

theorem holds_related_iff_exists (database : Database) (environment : Environment)
    (link : Linkage) (inner : Condition) :
    holds database environment (.related link inner) = true ↔
      ∃ scope ∈ scopes database environment link.sources,
        keysHold (scope :: environment) link.keys = true ∧
          holds database (scope :: environment) inner = true := by
  simp [holds, truth, Truth.isTrue]

end Store

theorem Source.withMentioned_eq {source : Source} {keys : List KeyPair} {near far : String}
    (between : KeysBetween keys near far) (joined : far ∈ source.tables) :
    source.withMentioned keys near = [source].filter (· ≠ .table near) := by
  have beside : ∀ name ∈ (mentioned keys).eraseDups.filter
      (fun name => !source.tables.contains name), name = near := by
    intro name member
    simp only [mentioned, List.mem_filter, List.mem_eraseDups, List.mem_flatMap,
      List.mem_cons, List.not_mem_nil, or_false] at member
    obtain ⟨⟨pair, inKeys, rfl | rfl⟩, apart⟩ := member
    · exact between.near_table pair inKeys
    · rw [between.far_table pair inKeys] at apart
      simp [joined] at apart
  unfold withMentioned
  rw [List.filter_cons, List.filter_cons, List.filter_nil]
  have othersGone : (((mentioned keys).eraseDups.filter
      fun name => !source.tables.contains name).map table).filter (· ≠ .table near) = [] := by
    simp only [List.filter_eq_nil_iff, List.mem_map]
    rintro other ⟨name, member, rfl⟩
    simp [beside name member]
  rw [othersGone]

namespace Linkage

/-- The rows in sight of a subquery over a relation when it has found a linked row. -/
inductive Reaches (database : Database) (link : Linkage) (row : Row) : Row → Scope → Prop
  | direct {next : Row} (alone : link.association = none)
      (known : next ∈ database link.target.table.name)
      (agree : ∀ pair ∈ link.keys, pair.Agree row next) :
      Reaches database link row next [(link.target.table.name, next)]
  | through {next middle : Row} {association : Association}
      (associated : link.association = some association)
      (known : next ∈ database link.target.table.name)
      (between : middle ∈ database association.table)
      (agree : ∀ pair ∈ link.keys, pair.Agree row middle)
      (targetAgree : ∀ pair ∈ association.keys, pair.Agree next middle) :
      Reaches database link row next
        [(link.target.table.name, next), (association.table, middle)]

variable {database : Database} {link : Linkage} {row next : Row} {scope : Scope}

theorem Reaches.known (reaches : link.Reaches database row next scope) :
    next ∈ database link.target.table.name := by
  cases reaches with
  | direct alone known agree => exact known
  | through associated known between agree targetAgree => exact known

theorem Reaches.links (reaches : link.Reaches database row next scope) :
    link.Links database row next := by
  cases reaches with
  | direct alone known agree => simpa [Links, alone] using agree
  | through associated known between agree targetAgree =>
      simp only [Links, associated]
      exact ⟨_, between, agree, targetAgree⟩

theorem Reaches.row? (reaches : link.Reaches database row next scope)
    (environment : Environment) :
    Environment.row? (scope :: environment) link.target.table.name = some next := by
  cases reaches with
  | direct alone known agree => simp
  | through associated known between agree targetAgree => simp

theorem Links.reaches (links : link.Links database row next)
    (known : next ∈ database link.target.table.name) :
    ∃ scope, link.Reaches database row next scope := by
  unfold Links at links
  split at links
  · next alone => exact ⟨_, .direct alone known links⟩
  · next association associated =>
      obtain ⟨middle, between, agree, targetAgree⟩ := links
      exact ⟨_, .through associated known between agree targetAgree⟩

theorem FollowsKeys.sources_eq (follows : link.FollowsKeys) :
    link.sources = [link.source].filter (· ≠ .table link.parent.table.name) := by
  cases follows with
  | direct alone keys differ =>
      apply Source.withMentioned_eq keys
      simp [source, alone, Source.tables]
  | through associated keys targetKeys notParent notTarget =>
      apply Source.withMentioned_eq keys
      simp [source, associated, Source.tables]

theorem FollowsKeys.sources_of_not_selfReferential (follows : link.FollowsKeys)
    (apart : ¬ link.IsSelfReferential) : link.sources = [link.source] := by
  have kept : link.source ≠ .table link.parent.table.name := by
    cases follows with
    | direct alone keys differ => simpa [source, alone] using Ne.symm apart
    | through associated keys targetKeys notParent notTarget => simp [source, associated]
  rw [follows.sources_eq]
  simp [kept]

/-- A subquery over a relation between two tables finds the rows that are linked with the nearest
row of the parent, and nothing else. -/
theorem FollowsKeys.holds_related_iff (follows : link.FollowsKeys)
    (apart : ¬ link.IsSelfReferential) {environment : Environment}
    (nearest : environment.row? link.parent.table.name = some row) (inner : Condition) :
    holds database environment (.related link inner) = true ↔
      ∃ next scope, link.Reaches database row next scope ∧
        holds database (scope :: environment) inner = true := by
  rw [holds_related_iff_exists, follows.sources_of_not_selfReferential apart, scopes_singleton]
  have targetApart : (link.parent.table.name == link.target.table.name) = false :=
    beq_eq_false_iff_ne.mpr apart
  cases follows with
  | direct alone keys differ =>
      simp only [source, alone, sourceRows, List.mem_map]
      have linked (next : Row) :
          keysHold ([(link.target.table.name, next)] :: environment) link.keys = true ↔
            ∀ pair ∈ link.keys, pair.Agree row next := by
        apply keysHold_iff keys
        · simp [List.lookup_cons, targetApart, nearest]
        · simp
      constructor
      · rintro ⟨_, ⟨next, known, rfl⟩, agree, met⟩
        exact ⟨next, _, .direct alone known ((linked next).mp agree), met⟩
      · rintro ⟨next, _, reaches, met⟩
        cases reaches with
        | direct _ known agree =>
            exact ⟨_, ⟨next, known, rfl⟩, (linked next).mpr agree, met⟩
        | through associated => simp [alone] at associated
  | @through association associated keys targetKeys notParent notTarget =>
      simp only [source, associated, sourceRows, List.mem_flatMap, List.mem_filter, List.mem_map]
      have parentApart : (link.parent.table.name == association.table) = false :=
        beq_eq_false_iff_ne.mpr notParent.symm
      have middleApart : (association.table == link.target.table.name) = false :=
        beq_eq_false_iff_ne.mpr notTarget
      have joined (next middle : Row) :
          keysHold ([(link.target.table.name, next), (association.table, middle)] :: environment)
            association.keys = true ↔ ∀ pair ∈ association.keys, pair.Agree next middle := by
        apply keysHold_iff targetKeys
        · simp
        · simp [List.lookup_cons, middleApart]
      have linked (next middle : Row) :
          keysHold ([(link.target.table.name, next), (association.table, middle)] :: environment)
            link.keys = true ↔ ∀ pair ∈ link.keys, pair.Agree row middle := by
        apply keysHold_iff keys
        · simp [List.lookup_cons, targetApart, parentApart, nearest]
        · simp [List.lookup_cons, middleApart]
      constructor
      · rintro ⟨_, ⟨_, ⟨next, known, rfl⟩, ⟨middle, between, rfl⟩, targetAgree⟩, agree, met⟩
        exact ⟨next, _, .through associated known between ((linked next middle).mp agree)
          ((joined next middle).mp targetAgree), met⟩
      · rintro ⟨next, _, reaches, met⟩
        cases reaches with
        | direct alone => simp [associated] at alone
        | @through middle _ same known between agree targetAgree =>
            obtain rfl := Option.some.inj (associated.symm.trans same)
            exact ⟨_, ⟨_, ⟨next, known, rfl⟩, ⟨middle, between, rfl⟩,
              (joined next middle).mpr targetAgree⟩, (linked next middle).mpr agree, met⟩

end Linkage

/-- A condition behind a walk of relations between different tables is true of a row exactly when
a chain leads from it to a row of which the condition is true. -/
theorem Walk.holds_throughHops_iff {database : Database} {source target : Model}
    {links : List Linkage} (walk : Walk source links target)
    (follows : ∀ link ∈ links, link.FollowsKeys)
    (apart : ∀ link ∈ links, ¬ link.IsSelfReferential)
    {condition : Condition} {field : Field} (about : condition.field? = some field)
    (ofTarget : field.table = target.table.name)
    {environment : Environment} {row : Row}
    (nearest : environment.row? source.table.name = some row) :
    holds database environment (Filter.throughHops links condition) = true ↔
      ∃ last, Chain database links row last ∧
        holds database (.ofRow target.table.name last) condition = true := by
  induction walk generalizing environment row with
  | stay model =>
      have sameTruth : holds database environment condition =
          holds database (.ofRow model.table.name row) condition := by
        unfold holds
        rw [truth_eq_of_row? about]
        rw [ofTarget, nearest, Environment.row?_ofRow]
      simp only [Filter.throughHops, List.foldr_nil, sameTruth]
      constructor
      · intro met
        exact ⟨row, .stay row, met⟩
      · rintro ⟨last, chain, met⟩
        cases chain
        exact met
  | @step link links target walk inductionHypothesis =>
      have followsRest : ∀ other ∈ links, other.FollowsKeys :=
        fun other member => follows other (by simp [member])
      have apartRest : ∀ other ∈ links, ¬ other.IsSelfReferential :=
        fun other member => apart other (by simp [member])
      change holds database environment
        (.related link (Filter.throughHops links condition)) = true ↔ _
      rw [(follows link (by simp)).holds_related_iff (apart link (by simp)) nearest]
      constructor
      · rintro ⟨next, scope, reaches, met⟩
        obtain ⟨last, chain, lastMet⟩ :=
          (inductionHypothesis followsRest apartRest ofTarget (reaches.row? environment)).mp met
        exact ⟨last, .step reaches.known reaches.links chain, lastMet⟩
      · rintro ⟨last, chain, lastMet⟩
        cases chain with
        | @step _ _ _ next _ known linked rest =>
            obtain ⟨scope, reaches⟩ := linked.reaches known
            exact ⟨next, scope, reaches,
              (inductionHypothesis followsRest apartRest ofTarget (reaches.row? environment)).mpr
                ⟨last, rest, lastMet⟩⟩

end GridQuery
