import GridQuery.Proofs.Descent
import GridQuery.Proofs.Sample

/-!
Relations of a table with itself.  Their subquery does not look at linked rows:
without an association table it ranges over nothing and sees only the row it
starts from, and with one it sees only rows that an association row connects
with themselves.  So a condition behind a walk means a chain of linked rows
exactly when the walk has no such relation.
-/

namespace GridQuery

open Store

/-- The condition behind a path is true of a row of the root exactly when a chain leads from it to
a row of which the condition is true. -/
def FieldPath.MeansChain (path : FieldPath) (root : String) : Prop :=
  ∀ (database : Database), ∀ row ∈ database root, ∀ condition : Condition,
    condition.field? = some path.field →
      (holds database (.ofRow root row) (Filter.throughHops path.hops condition) = true ↔
        ∃ last, Chain database path.hops row last ∧
          holds database (.ofRow path.field.table last) condition = true)

namespace Walk

theorem append_iff {before after : List Linkage} {source target : Model} :
    Walk source (before ++ after) target ↔
      ∃ middle, Walk source before middle ∧ Walk middle after target := by
  induction before generalizing source with
  | nil =>
      constructor
      · intro walk
        exact ⟨source, .stay source, walk⟩
      · rintro ⟨middle, stays, walk⟩
        cases stays
        exact walk
  | cons link before inductionHypothesis =>
      constructor
      · intro walk
        cases walk with
        | step _ rest =>
            obtain ⟨middle, first, second⟩ := inductionHypothesis.mp rest
            exact ⟨middle, .step link first, second⟩
      · rintro ⟨middle, first, second⟩
        cases first with
        | step _ rest => exact .step link (inductionHypothesis.mpr ⟨middle, rest, second⟩)

end Walk

namespace Linkage

variable {database : Database} {link : Linkage}

theorem FollowsKeys.holds_selfReferential_direct_iff (follows : link.FollowsKeys)
    (selfReferential : link.IsSelfReferential) (alone : link.association = none)
    {environment : Environment} {row : Row}
    (nearest : environment.row? link.parent.table.name = some row) (inner : Condition) :
    holds database environment (.related link inner) = true ↔
      (∀ pair ∈ link.keys, pair.Agree row row) ∧
        holds database ([] :: environment) inner = true := by
  have noSources : link.sources = [] := by
    rw [follows.sources_eq]
    simpa [source, alone] using selfReferential.symm
  cases follows with
  | through associated => simp [alone] at associated
  | direct _ keys differ =>
      rw [holds_related_iff_exists, noSources]
      simp only [scopes_nil, List.mem_singleton, exists_eq_left]
      have sameTable : link.parent.table.name = link.target.table.name := selfReferential
      have atParent : Environment.row? ([] :: environment) link.parent.table.name = some row := by
        simpa using nearest
      have atTarget : Environment.row? ([] :: environment) link.target.table.name = some row := by
        simpa [← sameTable] using nearest
      rw [keysHold_iff keys atParent atTarget]

/-- With an association table a row meets the subquery once some association row connects a row
that meets the condition with itself. -/
theorem FollowsKeys.holds_selfReferential_through (follows : link.FollowsKeys)
    (selfReferential : link.IsSelfReferential) {association : Association}
    (associated : link.association = some association) {loop middle : Row}
    (loopStored : loop ∈ database link.target.table.name)
    (middleStored : middle ∈ database association.table)
    (agree : ∀ pair ∈ link.keys, pair.Agree loop middle)
    (targetAgree : ∀ pair ∈ association.keys, pair.Agree loop middle)
    {environment : Environment} {inner : Condition}
    (met : holds database ([(link.target.table.name, loop), (association.table, middle)] ::
      environment) inner = true) :
    holds database environment (.related link inner) = true := by
  have oneSource : link.sources = [link.source] := by
    rw [follows.sources_eq]
    simp [source, associated]
  cases follows with
  | direct alone => simp [associated] at alone
  | @through other same keys targetKeys notParent notTarget =>
      obtain rfl := Option.some.inj (associated.symm.trans same)
      have middleApart : (association.table == link.target.table.name) = false :=
        beq_eq_false_iff_ne.mpr notTarget
      have loopNearest : Environment.row?
          ([(link.target.table.name, loop), (association.table, middle)] :: environment)
            link.target.table.name = some loop := by simp
      have middleNearest : Environment.row?
          ([(link.target.table.name, loop), (association.table, middle)] :: environment)
            association.table = some middle := by simp [List.lookup_cons, middleApart]
      rw [holds_related_iff_exists, oneSource, scopes_singleton]
      refine ⟨_, ?_, (keysHold_iff keys ?_ middleNearest).mpr agree, met⟩
      · simp only [source, associated, sourceRows, List.mem_flatMap, List.mem_filter, List.mem_map]
        exact ⟨_, ⟨loop, loopStored, rfl⟩, ⟨middle, middleStored, rfl⟩,
          (keysHold_iff targetKeys loopNearest middleNearest).mpr targetAgree⟩
      · rw [selfReferential]
        exact loopNearest

end Linkage

theorem Walk.exists_row_of_holds {database : Database} {source middle : Model}
    {links : List Linkage} (walk : Walk source links middle)
    (follows : ∀ link ∈ links, link.FollowsKeys)
    (apart : ∀ link ∈ links, ¬ link.IsSelfReferential)
    {environment : Environment} {row : Row} (stored : row ∈ database source.table.name)
    (nearest : environment.row? source.table.name = some row) {inner : Condition}
    (met : holds database environment (Filter.throughHops links inner) = true) :
    ∃ reached nextRow, nextRow ∈ database middle.table.name ∧
      Environment.row? reached middle.table.name = some nextRow ∧
        holds database reached inner = true := by
  induction walk generalizing environment row with
  | stay model => exact ⟨environment, row, stored, nearest, met⟩
  | @step link links middle walk inductionHypothesis =>
      obtain ⟨next, scope, reaches, nextMet⟩ :=
        ((follows link (by simp)).holds_related_iff (apart link (by simp)) nearest _).mp met
      exact inductionHypothesis (fun other inRest => follows other (by simp [inRest]))
        (fun other inRest => apart other (by simp [inRest])) reaches.known
        (reaches.row? environment) nextMet

/-- A database of some rows, each with its table. -/
def Database.ofEntries (entries : List (String × Row)) : Database :=
  fun table => (entries.filter (·.1 == table)).map (·.2)

theorem Database.mem_ofEntries {entries : List (String × Row)} {table : String} {row : Row} :
    row ∈ ofEntries entries table ↔ (table, row) ∈ entries := by
  simp only [ofEntries, List.mem_map, List.mem_filter, beq_iff_eq]
  constructor
  · rintro ⟨entry, ⟨member, rfl⟩, rfl⟩
    exact member
  · intro member
    exact ⟨_, ⟨member, rfl⟩, rfl⟩

/-- Where a table refers to itself through its own columns, a chain of scattered rows goes unseen:
none of them leads to itself. -/
theorem not_meansChain_of_direct {path : FieldPath} {root : Model}
    {before after : List Linkage} {link : Linkage} (hops : path.hops = before ++ link :: after)
    (walk : Walk root before link.parent)
    (follows : ∀ link ∈ path.hops, link.FollowsKeys)
    (apart : ∀ link ∈ before, ¬ link.IsSelfReferential)
    (selfReferential : link.IsSelfReferential) (alone : link.association = none) :
    ¬ path.MeansChain root.table.name := by
  intro means
  let entries := (root.table.name, Row.ofCode (Row.freshCode 0)) ::
    descent 0 (Row.freshCode 0) path.hops
  have scattered : ∀ entry ∈ entries, ∃ generation code,
      Row.Scattered generation code ∧ entry.2 = .ofCode code := by
    intro entry member
    rcases List.mem_cons.mp member with rfl | inDescent
    · exact ⟨0, _, Row.freshCode_scattered 0, rfl⟩
    · exact descent_scattered follows (Row.freshCode_scattered 0) inDescent
  have stored : Row.ofCode (Row.freshCode 0) ∈ Database.ofEntries entries root.table.name :=
    Database.mem_ofEntries.mpr (by simp [entries])
  have descentStored : ∀ entry ∈ descent 0 (Row.freshCode 0) path.hops,
      entry.2 ∈ Database.ofEntries entries entry.1 :=
    fun entry member => Database.mem_ofEntries.mpr (by simp [entries, member])
  obtain ⟨last, chain⟩ := chain_descent follows descentStored
  have lastGiven : holds (Database.ofEntries entries)
      (.ofRow path.field.table (.ofCode last)) (.isNull path.field true) = true := by
    simp [holds, truth, Truth.isTrue, Environment.cell_of_row? (Environment.row?_ofRow _ _),
      Row.ofCode]
  have met := (means _ _ stored (.isNull path.field true) rfl).mpr ⟨_, chain, lastGiven⟩
  rw [hops, Filter.throughHops, List.foldr_append] at met
  obtain ⟨reached, row, rowStored, nearest, rowMet⟩ := walk.exists_row_of_holds
    (fun other inBefore => follows other (by simp [hops, inBefore])) apart stored
    (Environment.row?_ofRow _ _) met
  have linkFollows := follows link (by simp [hops])
  obtain ⟨agree, -⟩ :=
    (linkFollows.holds_selfReferential_direct_iff selfReferential alone nearest _).mp rowMet
  cases linkFollows with
  | through associated => simp [alone] at associated
  | direct _ keys differ =>
      obtain ⟨pair, inKeys, different⟩ := differ selfReferential
      obtain ⟨generation, code, rowScattered, rfl⟩ :
          ∃ generation code, Row.Scattered generation code ∧ row = .ofCode code :=
        scattered _ (Database.mem_ofEntries.mp rowStored)
      exact rowScattered.not_agree_self different (agree pair inKeys)

def Row.constant (n : Nat) : Row :=
  Row.ofCode fun _ => n

theorem Row.agree_constant (pair : KeyPair) (n : Nat) :
    pair.Agree (constant n) (constant n) :=
  (agree_ofCode_iff pair _ _).mpr rfl

/-- Behind any walk, rows of one constant lead on to each other. -/
theorem Walk.holds_throughHops_of_constant {database : Database} {n : Nat}
    (stored : ∀ table, Row.constant n ∈ database table) {source target : Model}
    {links : List Linkage} (walk : Walk source links target)
    (follows : ∀ link ∈ links, link.FollowsKeys) {inner : Condition}
    (met : ∀ reached : Environment, reached.row? target.table.name = some (.constant n) →
      holds database reached inner = true)
    {environment : Environment}
    (nearest : environment.row? source.table.name = some (.constant n)) :
    holds database environment (Filter.throughHops links inner) = true := by
  induction walk generalizing environment with
  | stay model => exact met environment nearest
  | @step link links target walk inductionHypothesis =>
      have rest {reached : Environment}
          (nearest : reached.row? link.target.table.name = some (.constant n)) :
          holds database reached (Filter.throughHops links inner) = true :=
        inductionHypothesis (fun other inRest => follows other (by simp [inRest])) met nearest
      have linkFollows := follows link (by simp)
      change holds database environment (.related link (Filter.throughHops links inner)) = true
      by_cases selfReferential : link.IsSelfReferential
      · cases associated : link.association with
        | none =>
            rw [linkFollows.holds_selfReferential_direct_iff selfReferential associated nearest]
            have sameTable : link.parent.table.name = link.target.table.name := selfReferential
            refine ⟨fun pair _ => Row.agree_constant pair n, rest ?_⟩
            simpa [← sameTable] using nearest
        | some association =>
            exact linkFollows.holds_selfReferential_through selfReferential associated
              (stored _) (stored _) (fun pair _ => Row.agree_constant pair n)
              (fun pair _ => Row.agree_constant pair n) (rest (by simp))
      · rw [linkFollows.holds_related_iff selfReferential nearest]
        have links : link.Links database (.constant n) (.constant n) := by
          unfold Linkage.Links
          split
          · exact fun pair _ => Row.agree_constant pair n
          · exact ⟨_, stored _, fun pair _ => Row.agree_constant pair n,
              fun pair _ => Row.agree_constant pair n⟩
        obtain ⟨scope, reaches⟩ := links.reaches (stored _)
        exact ⟨_, scope, reaches, rest (reaches.row? environment)⟩

theorem Row.constant_eq_of_agree {keys : List KeyPair} {near far : String}
    (between : KeysBetween keys near far) {m n : Nat}
    (agree : ∀ pair ∈ keys, pair.Agree (constant m) (constant n)) : m = n := by
  obtain ⟨pair, inKeys⟩ := List.exists_mem_of_ne_nil keys between.ne_nil
  exact (agree_ofCode_iff pair _ _).mp (agree pair inKeys)

/-- Two rows in every table, which differ in every column. -/
def Database.twoConstants : Database :=
  fun _ => [.constant 0, .constant 1]

theorem Database.mem_twoConstants {table : String} {row : Row}
    (stored : row ∈ twoConstants table) : ∃ n, row = .constant n := by
  simp only [twoConstants, List.mem_cons, List.not_mem_nil, or_false] at stored
  rcases stored with rfl | rfl
  · exact ⟨0, rfl⟩
  · exact ⟨1, rfl⟩

theorem Linkage.FollowsKeys.constant_eq_of_links {link : Linkage} (follows : link.FollowsKeys)
    {m n : Nat} (linked : link.Links .twoConstants (.constant m) (.constant n)) : m = n := by
  cases follows with
  | direct alone keys differ =>
      simp only [Linkage.Links, alone] at linked
      exact Row.constant_eq_of_agree keys linked
  | through associated keys targetKeys notParent notTarget =>
      simp only [Linkage.Links, associated] at linked
      obtain ⟨middle, middleStored, agree, targetAgree⟩ := linked
      obtain ⟨k, rfl⟩ := Database.mem_twoConstants middleStored
      rw [Row.constant_eq_of_agree keys agree, Row.constant_eq_of_agree targetKeys targetAgree]

theorem eq_constant_of_chain {links : List Linkage}
    (follows : ∀ link ∈ links, link.FollowsKeys) {n : Nat} {last : Row}
    (chain : Chain .twoConstants links (.constant n) last) : last = .constant n := by
  induction links with
  | nil =>
      cases chain
      rfl
  | cons link links inductionHypothesis =>
      cases chain with
      | @step _ _ _ next _ stored linked rest =>
          obtain ⟨m, rfl⟩ := Database.mem_twoConstants stored
          obtain rfl := (follows link (by simp)).constant_eq_of_links linked
          exact inductionHypothesis (fun other inRest => follows other (by simp [inRest])) rest

/-- Where an association table relates a table with itself, the subquery forgets the row that it
starts from: a row that is connected with itself is found, though no chain leads to it. -/
theorem not_meansChain_of_through {path : FieldPath} {root target : Model}
    {before after : List Linkage} {link : Linkage} (hops : path.hops = before ++ link :: after)
    (walk : Walk root before link.parent) (rest : Walk link.target after target)
    (ofTarget : path.field.table = target.table.name)
    (follows : ∀ link ∈ path.hops, link.FollowsKeys)
    (selfReferential : link.IsSelfReferential) {association : Association}
    (associated : link.association = some association) :
    ¬ path.MeansChain root.table.name := by
  intro means
  have zeroStored (table : String) : Row.constant 0 ∈ Database.twoConstants table := by
    simp [Database.twoConstants]
  have oneStored (table : String) : Row.constant 1 ∈ Database.twoConstants table := by
    simp [Database.twoConstants]
  let containsZero : Condition := .like path.field false .anywhere "0"
  have cellOf {environment : Environment} {n : Nat}
      (nearest : environment.row? path.field.table = some (.constant n)) :
      environment.cell path.field = .int n := Environment.cell_of_row? nearest
  have zeroMet {environment : Environment}
      (nearest : environment.row? path.field.table = some (.constant 0)) :
      holds .twoConstants environment containsZero = true := by
    simp only [containsZero, holds, truth, cellOf nearest]
    decide +kernel
  have oneNotMet : holds .twoConstants (.ofRow path.field.table (.constant 1)) containsZero =
      false := by
    simp only [containsZero, holds, truth, cellOf (Environment.row?_ofRow _ _)]
    decide +kernel
  have linkFollows := follows link (by simp [hops])
  have met : holds .twoConstants (.ofRow root.table.name (.constant 1))
      (Filter.throughHops path.hops containsZero) = true := by
    rw [hops, Filter.throughHops, List.foldr_append]
    refine walk.holds_throughHops_of_constant oneStored
      (fun other inBefore => follows other (by simp [hops, inBefore])) ?_
      (Environment.row?_ofRow _ _)
    intro reached _
    refine linkFollows.holds_selfReferential_through selfReferential associated
      (zeroStored _) (zeroStored _) (fun pair _ => Row.agree_constant pair 0)
      (fun pair _ => Row.agree_constant pair 0) ?_
    refine rest.holds_throughHops_of_constant zeroStored
      (fun other inAfter => follows other (by simp [hops, inAfter])) ?_ (by simp)
    intro last nearest
    exact zeroMet (by rw [ofTarget]; exact nearest)
  obtain ⟨last, chain, lastMet⟩ := (means _ _ (oneStored _) containsZero rfl).mp met
  rw [eq_constant_of_chain follows chain, oneNotMet] at lastMet
  simp at lastMet

/-- The condition behind a path of a sound schema means a chain of linked rows, on every database,
exactly when no relation of the path relates a table with itself. -/
theorem meansChain_iff_not_selfReferential {registry : Registry} (derived : registry.IsDerived)
    (sound : registry.schema.Sound) {options : QueryOptions} {model : Model} {field : Value}
    {path : FieldPath} (known : model ∈ registry.schema.models)
    (resolved : FieldPath.resolve registry options model field = .ok path) :
    path.MeansChain model.table.name ↔ ∀ link ∈ path.hops, ¬ link.IsSelfReferential := by
  obtain ⟨target, walk, ofTarget, follows⟩ :=
    FieldPath.resolve_isWalk derived sound known resolved
  constructor
  · intro means
    by_contra someSelfReferential
    push Not at someSelfReferential
    -- The first such relation decides: up to it the subqueries find linked rows.
    obtain ⟨link, found⟩ : ∃ link, path.hops.find? (·.IsSelfReferential) = some link := by
      rw [← Option.isSome_iff_exists, List.find?_isSome]
      simpa using someSelfReferential
    obtain ⟨selfReferential, before, after, hops, apart⟩ :=
      List.find?_eq_some_iff_append.mp found
    simp only [decide_eq_true_eq, Bool.not_eq_true', decide_eq_false_iff_not]
      at selfReferential apart
    rw [hops, Walk.append_iff] at walk
    obtain ⟨middle, first, second⟩ := walk
    cases second with
    | step _ rest =>
        cases associated : link.association with
        | none =>
            exact not_meansChain_of_direct hops first follows apart selfReferential associated means
        | some association =>
            exact not_meansChain_of_through hops first rest ofTarget follows selfReferential
              associated means
  · intro apart database row _ condition about
    rw [walk.holds_throughHops_iff follows apart about ofTarget (Environment.row?_ofRow _ _),
      ofTarget]

/-- A condition on the managers of employees does not mean a chain; one on the authors of the
posts of an author does, though the path comes back to the table it starts from. -/
theorem meansChain_manager_and_author :
    (∃ path, FieldPath.resolve (.ofSchema Sample.schema) {} Sample.employee
        (.str "manager.name") = .ok path ∧ ¬ path.MeansChain Sample.employee.table.name) ∧
      ∃ path, FieldPath.resolve (.ofSchema Sample.schema) {} Sample.author
        (.str "posts.author.name") = .ok path ∧ path.MeansChain Sample.author.table.name := by
  have derived := Registry.isDerived_ofSchema Sample.schema
  constructor
  · have resolved : FieldPath.resolve (.ofSchema Sample.schema) {} Sample.employee
        (.str "manager.name") = .ok ⟨"manager.name",
          [Sample.refersTo "manager" Sample.employee "manager_id" Sample.employee],
          ⟨"employees", Sample.column "name" .text⟩⟩ := by decide +kernel
    refine ⟨_, resolved, ?_⟩
    rw [meansChain_iff_not_selfReferential derived Sample.schema_sound (by decide +kernel) resolved]
    decide
  · have resolved : FieldPath.resolve (.ofSchema Sample.schema) {} Sample.author
        (.str "posts.author.name") = .ok ⟨"posts.author.name",
          [Sample.referredBy "posts" Sample.author Sample.post "author_id" .many,
            Sample.refersTo "author" Sample.post "author_id" Sample.author],
          ⟨"authors", Sample.column "name" .text⟩⟩ := by decide +kernel
    refine ⟨_, resolved, ?_⟩
    rw [meansChain_iff_not_selfReferential derived Sample.schema_sound (by decide +kernel) resolved]
    decide

end GridQuery
