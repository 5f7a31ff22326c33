import GridQuery.Proofs.SelfReference
import GridQuery.Proofs.SortOrder

/-!
When a sort does not depend on the limit of its subquery.  The subquery of a
straight key finds one row at most, at the end of a chain from the row that is
sorted, and so does that of a single relation of a table with itself.  No other
key is so: an association table is never joined with the target, a table that
comes twice has no name of its own, and a path that comes back to its first
table is not tied to the row that is sorted.
-/

namespace GridQuery

open Store

theorem Source.eraseDups_mentioned {keys : List KeyPair} {near far : String}
    (between : KeysBetween keys near far) (apart : near ≠ far) :
    (mentioned keys).eraseDups = [near, far] := by
  have onlyThese : ∀ name ∈ mentioned keys, name = near ∨ name = far := by
    intro name member
    simp only [mentioned, List.mem_flatMap, List.mem_cons, List.not_mem_nil, or_false] at member
    obtain ⟨pair, inKeys, rfl | rfl⟩ := member
    · exact .inl (between.near_table pair inKeys)
    · exact .inr (between.far_table pair inKeys)
  cases keys with
  | nil => exact absurd rfl between.ne_nil
  | cons pair rest =>
      change (pair.1.table :: pair.2.table :: mentioned rest).eraseDups = _
      rw [between.near_table pair (by simp), between.far_table pair (by simp)]
      have othersGone : (((mentioned rest).filter fun name => !name == near).filter
          fun name => !name == far) = [] := by
        simp only [List.filter_filter, List.filter_eq_nil_iff]
        intro name member
        rcases onlyThese name (List.mem_cons_of_mem _ (List.mem_cons_of_mem _ member)) with
          rfl | rfl <;> simp
      rw [List.eraseDups_cons, List.filter_cons_of_pos (by simpa using apart.symm),
        List.eraseDups_cons, othersGone]
      rfl

theorem Source.withMentioned_eq_of_not_mem {source : Source} {keys : List KeyPair}
    {near far : String} (between : KeysBetween keys near far) (apart : near ≠ far)
    (absent : far ∉ source.tables) :
    source.withMentioned keys near = [source].filter (· ≠ .table near) ++ [.table far] := by
  unfold withMentioned
  rw [eraseDups_mentioned between apart]
  have beside : ((([near, far].filter fun name => !source.tables.contains name).map table).filter
      (· ≠ .table near)) = [.table far] := by
    by_cases joined : near ∈ source.tables <;> simp [joined, absent, apart.symm]
  change List.filter _ ([source] ++ _) = _
  rw [List.filter_append, beside]

namespace Linkage

theorem FollowsKeys.linksAtMostOne_twoConstants {link : Linkage} (follows : link.FollowsKeys) :
    link.LinksAtMostOne .twoConstants := by
  intro row stored
  obtain ⟨k, rfl⟩ := Database.mem_twoConstants stored
  have apart : ¬ (link.Links .twoConstants (.constant k) (.constant 0) ∧
      link.Links .twoConstants (.constant k) (.constant 1)) := by
    rintro ⟨zeroLinked, oneLinked⟩
    have isZero := follows.constant_eq_of_links zeroLinked
    have isOne := follows.constant_eq_of_links oneLinked
    omega
  simpa [AtMostOne, Database.twoConstants] using apart

end Linkage

/-- Two rows of the association table, both connected with the row of zeros that every other table
has. -/
def Database.twiceConnected (association : String) (keys : List KeyPair) : Database := fun table =>
  if table = association then
    [.ofCode (Row.heirCode keys 1 fun _ => 0), .ofCode (Row.heirCode keys 2 fun _ => 0)]
  else [.constant 0]

theorem Row.constant_injective : Function.Injective constant := by
  intro m n same
  have sameCell := congrFun same ""
  simpa [constant, ofCode] using sameCell

/-- One row for every table. -/
def Scope.uniform (tables : List String) (row : Row) : Scope :=
  tables.map fun table => (table, row)

theorem Scope.lookup_uniform {tables : List String} {table : String} (member : table ∈ tables)
    (row : Row) : (uniform tables row).lookup table = some row := by
  induction tables with
  | nil => simp at member
  | cons first rest inductionHypothesis =>
      by_cases isFirst : table = first
      · simp [uniform, isFirst]
      · have apart : (table == first) = false := by simpa using isFirst
        simp only [uniform, List.map_cons, List.lookup_cons, apart]
        exact inductionHypothesis ((List.mem_cons.mp member).resolve_left isFirst)

theorem Scope.lookup_uniform_of_not_mem {tables : List String} {table : String}
    (absent : table ∉ tables) (row : Row) : (uniform tables row).lookup table = none := by
  apply lookup_eq_none_of_not_mem
  simpa [uniform] using absent

theorem Walk.uniform_mem_sourceRows {database : Database} {environment : Environment}
    {start target : Model} {links : List Linkage} (walk : Walk start links target)
    (follows : ∀ link ∈ links, link.FollowsKeys) (alone : ∀ link ∈ links, link.association = none)
    {n : Nat} (stored : ∀ table, Row.constant n ∈ database table) :
    Scope.uniform (SortKey.chain target.table.name links).tables (.constant n) ∈
      sourceRows database environment (SortKey.chain target.table.name links) := by
  induction walk with
  | stay model => exact List.mem_map.mpr ⟨.constant n, stored _, rfl⟩
  | @step link links target walk inductionHypothesis =>
      change Scope.uniform ((SortKey.chain target.table.name links).tables ++
          [link.parent.table.name]) _ ∈
        sourceRows database environment
          (.join (SortKey.chain target.table.name links) link.parent.table.name link.keys)
      simp only [sourceRows, List.mem_flatMap, List.mem_filter, List.mem_map]
      refine ⟨_, inductionHypothesis (fun other inRest => follows other (by simp [inRest]))
        (fun other inRest => alone other (by simp [inRest])), ⟨.constant n, stored _, ?_⟩, ?_⟩
      · simp [Scope.uniform]
      · have joined {name : String}
            (member : name ∈ (SortKey.chain target.table.name links).tables ++
              [link.parent.table.name]) : Environment.row?
              (Scope.uniform ((SortKey.chain target.table.name links).tables ++
                [link.parent.table.name]) (.constant n) :: environment) name =
              some (.constant n) := by
          simp [Scope.lookup_uniform member]
        have targetJoined : link.target.table.name ∈
            (SortKey.chain target.table.name links).tables := by
          rw [walk.tables_chain]
          simp [SortKey.tables]
        rw [keysHold_iff ((follows link (by simp)).between (alone link (by simp)))
          (joined (by simp)) (joined (by simp [targetJoined]))]
        exact fun pair _ => Row.agree_constant pair n

namespace SortKey

variable {key : SortKey} {root target : Model} {first : Linkage} {later : List Linkage}

/-- The limit takes nothing away: without it the subquery of the key is known to the store and finds
one row at most, at the end of a chain from the row that is sorted. -/
structure IsDetermined (key : SortKey) (root : String) : Prop where
  resolves : Names.keyResolves [[root]] key = true
  atMostOne : ∀ database, (∀ link ∈ key.hops, link.LinksAtMostOne database) →
    ∀ row ∈ database root, (candidates database (.ofRow root row) key).length ≤ 1
  reached : ∀ database, (∀ link ∈ key.hops, link.LinksAtMostOne database) →
    ∀ row ∈ database root, ∀ scope ∈ candidates database (.ofRow root row) key,
      ∃ last, Chain database key.hops row last ∧
        Environment.row? (scope :: Environment.ofRow root row) key.field.table = some last

/-- The association tables of a path stand between the models of one relation only. -/
structure AssociationsApart (key : SortKey) (root : String) : Prop where
  nodup : (associations key.hops).Nodup
  not_mem : ∀ name ∈ associations key.hops, name ∉ tables root key.hops

theorem Straight.isDetermined (straight : key.Straight root target)
    (hops : key.hops = first :: later) : key.IsDetermined root.table.name where
  resolves := straight.keyResolves
  atMostOne := fun database single row stored =>
    straight.length_candidates_le_one hops single stored
  reached := by
    intro database _ row _ scope member
    obtain ⟨last, chain, lastFound⟩ := straight.chain_of_mem_candidates hops member
    refine ⟨last, chain, ?_⟩
    simp [straight.ofTarget, lastFound]

theorem Leads.isDetermined_of_selfReferential (leads : key.Leads root target)
    (hops : key.hops = [first]) (alone : first.association = none)
    (selfReferential : first.IsSelfReferential) : key.IsDetermined root.table.name := by
  obtain ⟨rfl, walk⟩ := leads.walk_later hops
  obtain rfl : first.target = target := walk.target_eq_last rfl
  have between := (leads.follows first (by simp [hops])).between alone
  have sameTable : first.parent.table.name = first.target.table.name := selfReferential
  have subquery : key.subquery? = some ([], first.keys) := by
    rw [leads.subquery?_eq hops, Source.withMentioned_eq between (by simp [chain, Source.tables])]
    simp [chain, sameTable]
  have ofRoot : key.field.table = first.parent.table.name := leads.ofTarget.trans sameTable.symm
  have onlyCandidate {database : Database} {row : Row} {scope : Scope}
      (member : scope ∈ candidates database (.ofRow first.parent.table.name row) key) :
      scope = [] ∧ ∀ pair ∈ first.keys, pair.Agree row row := by
    simp only [candidates, subquery, scopes_nil, List.mem_filter, List.mem_singleton] at member
    obtain ⟨rfl, agree⟩ := member
    refine ⟨rfl, (keysHold_iff between ?_ ?_).mp agree⟩
    · simp [Environment.row?_ofRow]
    · simp [← sameTable, Environment.row?_ofRow]
  constructor
  · have rootResolves : Names.resolves (Names.within [] [[first.parent.table.name]])
        first.parent.table.name = true := by simp [Names.within, Names.resolves]
    simp only [Names.keyResolves, subquery, Names.subqueryResolves, Names.fieldResolves, ofRoot,
      rootResolves, Names.keysResolve_iff between, ← sameTable, List.all_nil, Bool.and_eq_true,
      and_self]
  · intro database _ row _
    simp only [candidates, subquery, scopes_nil]
    exact List.length_filter_le _ _
  · intro database _ row stored scope member
    obtain ⟨rfl, agree⟩ := onlyCandidate member
    rw [hops]
    refine ⟨row, .step (by rwa [← sameTable]) ?_ (.stay row), ?_⟩
    · exact (Linkage.links_iff alone database row row).mpr agree
    · simp [ofRoot, Environment.row?_ofRow]

theorem Leads.keysResolve (leads : key.Leads root target) (hops : key.hops = first :: later)
    {seen : Names.Tables} (resolved : Names.keyResolves seen key = true) {link : Linkage}
    (member : link ∈ key.hops) :
    Names.keysResolve (Names.within
      ((chain target.table.name later).withMentioned first.keys root.table.name) seen)
      link.keys = true := by
  simp only [Names.keyResolves, leads.subquery?_eq hops, Names.subqueryResolves, Bool.and_eq_true,
    List.all_eq_true] at resolved
  obtain ⟨⟨sourcesResolve, firstResolves⟩, -⟩ := resolved
  rw [hops] at member
  rcases List.mem_cons.mp member with rfl | inLater
  · exact firstResolves
  · have joined : chain target.table.name later ∈
        (chain target.table.name later).withMentioned first.keys root.table.name := by
      cases later with
      | nil => simp at inLater
      | cons second rest => simp [Source.withMentioned, chain]
    have chainResolves := sourcesResolve _ joined
    rw [Names.sourceResolves_chain, List.all_eq_true] at chainResolves
    exact chainResolves link inLater

theorem Leads.sources_of_several (leads : key.Leads root target) (hops : key.hops = first :: later)
    (alone : first.association = none) (several : later ≠ []) :
    (chain target.table.name later).withMentioned first.keys root.table.name =
      [chain target.table.name later] := by
  obtain ⟨rfl, -⟩ := leads.walk_later hops
  rw [Source.withMentioned_eq ((leads.follows first (by simp [hops])).between alone)
    ((leads.mem_chain_tables_iff hops).mpr (by simp [tables]))]
  cases later with
  | nil => exact absurd rfl several
  | cons second rest => simp [chain]

theorem Leads.mem_sources (leads : key.Leads root target) (hops : key.hops = first :: later)
    {name : String} (member : name ∈ ((chain target.table.name later).withMentioned first.keys
      root.table.name).flatMap Source.tables) :
    name ∈ tables root.table.name key.hops ∨ first.association.map (·.table) = some name := by
  obtain ⟨rfl, walk⟩ := leads.walk_later hops
  have inLater {name : String} (member : name ∈ tables first.target.table.name later) :
      name ∈ tables first.parent.table.name key.hops := by
    rw [hops]
    exact List.mem_cons_of_mem _ member
  simp only [Source.withMentioned, List.mem_flatMap, List.mem_filter, List.mem_cons,
    List.mem_map, List.mem_eraseDups, Source.mentioned, List.not_mem_nil, or_false] at member
  obtain ⟨source, ⟨rfl | ⟨beside, ⟨⟨pair, inKeys, isMentioned⟩, -⟩, rfl⟩, -⟩, inSource⟩ := member
  · exact .inl (inLater ((leads.mem_chain_tables_iff hops).mp inSource))
  · obtain rfl : name = beside := by simpa [Source.tables] using inSource
    cases leads.follows first (by simp [hops]) with
    | direct alone keys differ =>
        rcases isMentioned with rfl | rfl
        · exact .inl (by simp [keys.near_table pair inKeys, tables])
        · rw [keys.far_table pair inKeys]
          exact .inl (inLater (by simp [tables]))
    | through associated keys targetKeys notParent notTarget =>
        rcases isMentioned with rfl | rfl
        · exact .inl (by simp [keys.near_table pair inKeys, tables])
        · exact .inr (by simp [keys.far_table pair inKeys, associated])

namespace IsDetermined

theorem alone_later (determined : key.IsDetermined root.table.name) (leads : key.Leads root target)
    (apart : key.AssociationsApart root.table.name) (hops : key.hops = first :: later) :
    ∀ link ∈ later, link.association = none := by
  intro link inLater
  have inHops : link ∈ key.hops := by simp [hops, inLater]
  cases leads.follows link inHops with
  | direct alone keys differ => exact alone
  | @through association associated keys targetKeys notParent notTarget =>
      exfalso
      have isAssociation : association.table ∈ associations key.hops :=
        List.mem_filterMap.mpr ⟨link, inHops, by simp [associated]⟩
      have notOnPath := apart.not_mem _ isAssociation
      have resolved := leads.keysResolve hops determined.resolves inHops
      rw [Names.keysResolve_iff keys] at resolved
      have seen : association.table ∈ ((chain target.table.name later).withMentioned first.keys
          root.table.name).flatMap Source.tables := by
        by_contra unseen
        rw [Names.within, Names.resolves_of_not_mem unseen] at resolved
        have notRoot : association.table ≠ root.table.name := by
          rintro isRoot
          exact notOnPath (by simp [tables, isRoot])
        simp [Names.resolves, notRoot] at resolved
      rcases leads.mem_sources hops seen with onPath | isFirst
      · exact notOnPath onPath
      · have nodup := apart.nodup
        rw [hops, associations, List.filterMap_cons, isFirst, List.nodup_cons] at nodup
        exact nodup.1 (List.mem_filterMap.mpr ⟨link, inLater, by simp [associated]⟩)

theorem nodup_later (determined : key.IsDetermined root.table.name) (leads : key.Leads root target)
    (hops : key.hops = first :: later) (alone : ∀ link ∈ key.hops, link.association = none)
    (several : later ≠ []) : (tables first.target.table.name later).Nodup := by
  have between {link : Linkage} (inHops : link ∈ key.hops) :=
    (leads.follows link inHops).between (alone link inHops)
  have sources := leads.sources_of_several hops (alone first (by simp [hops])) several
  have targetResolves {link : Linkage} (inHops : link ∈ key.hops) :
      Names.resolves [(chain target.table.name later).tables, [root.table.name]]
        link.target.table.name = true := by
    have resolved := leads.keysResolve hops determined.resolves inHops
    rw [sources, Names.keysResolve_iff (between inHops)] at resolved
    simpa [Names.within] using resolved.2
  -- Each of the tables is the target of some relation, whose keys mention it.
  have everyResolves {name : String} (onPath : name ∈ tables first.target.table.name later) :
      Names.resolves [(chain target.table.name later).tables, [root.table.name]] name = true := by
    rcases List.mem_cons.mp onPath with rfl | behind
    · exact targetResolves (by simp [hops])
    · obtain ⟨link, inLater, rfl⟩ := List.mem_map.mp behind
      exact targetResolves (by simp [hops, inLater])
  rw [← List.nodup_reverse, ← (leads.walk_later hops).2.tables_chain, List.nodup_iff_count_eq_one]
  intro name member
  have resolved := everyResolves ((leads.mem_chain_tables_iff hops).mp member)
  simpa [Names.resolves, member] using resolved

theorem not_of_candidate (determined : key.IsDetermined root.table.name)
    (leads : key.Leads root target) {scope : Scope}
    (member : scope ∈ candidates .twoConstants (.ofRow root.table.name (.constant 0)) key)
    (shown : scope.lookup target.table.name = some (.constant 1)) : False := by
  obtain ⟨last, chain, lastFound⟩ := determined.reached .twoConstants
    (fun link inHops => (leads.follows link inHops).linksAtMostOne_twoConstants) _
    (by simp [Database.twoConstants]) scope member
  have isZero := eq_constant_of_chain leads.follows chain
  rw [leads.ofTarget, Environment.row?_cons, shown, Option.some_or, isZero] at lastFound
  have absurdly := Row.constant_injective (Option.some.inj lastFound)
  omega

/-- The path does not come back to its first table: the subquery would not see the row that is
sorted. -/
theorem root_not_mem (determined : key.IsDetermined root.table.name) (leads : key.Leads root target)
    (hops : key.hops = first :: later) (alone : ∀ link ∈ key.hops, link.association = none)
    (several : later ≠ []) : root.table.name ∉ tables first.target.table.name later := by
  -- On rows of ones everywhere the subquery agrees with itself, whatever row is sorted.
  intro revisited
  obtain ⟨rfl, walk⟩ := leads.walk_later hops
  have aloneFirst := alone first (by simp [hops])
  have between := (leads.follows first (by simp [hops])).between aloneFirst
  have shown {name : String} (onPath : name ∈ tables first.target.table.name later) :
      (Scope.uniform (chain target.table.name later).tables (.constant 1)).lookup name =
        some (.constant 1) :=
    Scope.lookup_uniform ((leads.mem_chain_tables_iff hops).mpr onPath) _
  have seen {name : String} (onPath : name ∈ tables first.target.table.name later) :
      Environment.row? (Scope.uniform (chain target.table.name later).tables (.constant 1) ::
        Environment.ofRow first.parent.table.name (.constant 0)) name = some (.constant 1) := by
    simp [shown onPath]
  refine determined.not_of_candidate leads ?_ (shown walk.mem_tables_target)
  simp only [candidates, leads.subquery?_eq hops, leads.sources_of_several hops aloneFirst several,
    scopes_singleton, List.mem_filter]
  constructor
  · exact walk.uniform_mem_sourceRows
      (fun link inLater => leads.follows link (by simp [hops, inLater]))
      (fun link inLater => alone link (by simp [hops, inLater]))
      (fun table => by simp [Database.twoConstants])
  · rw [keysHold_iff between (seen revisited) (seen (by simp [tables]))]
    exact fun pair _ => Row.agree_constant pair 1

/-- Where only the association table is searched, each connected row of it is a candidate. -/
theorem not_of_association_alone (determined : key.IsDetermined root.table.name)
    {association : String}
    (keys : KeysBetween first.keys root.table.name association) (hops : key.hops = [first])
    (notRoot : association ≠ root.table.name) (notTarget : association ≠ first.target.table.name)
    (subquery : key.subquery? = some ([.table association], first.keys)) : False := by
  let database := Database.twiceConnected association first.keys
  let environment := Environment.ofRow root.table.name (.constant 0)
  have single : ∀ link ∈ key.hops, link.LinksAtMostOne database := by
    intro link inHops
    obtain rfl : link = first := by simpa [hops] using inHops
    intro row _
    simp [AtMostOne, database, Database.twiceConnected, notTarget.symm]
  have everyConnected : ∀ scope ∈ sourceRows database environment (.table association),
      keysHold (scope :: environment) first.keys = true := by
    intro scope member
    obtain ⟨row, stored, rfl⟩ := List.mem_map.mp member
    obtain ⟨generation, rfl⟩ : ∃ generation,
        row = .ofCode (Row.heirCode first.keys generation fun _ => 0) := by
      rcases (by simpa [database, Database.twiceConnected] using stored) with rfl | rfl
      · exact ⟨1, rfl⟩
      · exact ⟨2, rfl⟩
    have unseen : (root.table.name == association) = false := by simpa using notRoot.symm
    have agree : ∀ pair ∈ first.keys, pair.Agree (.constant 0)
        (.ofCode (Row.heirCode first.keys generation fun _ => 0)) :=
      fun pair inKeys => Row.agree_heirCode keys inKeys generation _
    apply (keysHold_iff keys ?_ ?_).mpr agree
    · simp [environment, List.lookup_cons, unseen, Environment.row?_ofRow]
    · simp
  have atMostOne := determined.atMostOne database single (.constant 0)
    (by simp [database, Database.twiceConnected, notRoot.symm])
  simp only [candidates, subquery, scopes_singleton] at atMostOne
  rw [List.filter_eq_self.mpr everyConnected] at atMostOne
  simp [sourceRows, database, Database.twiceConnected] at atMostOne

/-- Where the association table stands beside the target, each row of the target is found with each
row of the association table that is connected. -/
theorem not_of_association_beside (determined : key.IsDetermined root.table.name)
    (leads : key.Leads root target) (hops : key.hops = first :: later) {association : String}
    (keys : KeysBetween first.keys root.table.name association)
    (aloneLater : ∀ link ∈ later, link.association = none)
    (notRoot : association ≠ root.table.name)
    (notJoined : association ∉ (chain target.table.name later).tables)
    (subquery : key.subquery? =
      some ([chain target.table.name later, .table association], first.keys)) : False := by
  obtain ⟨rfl, walk⟩ := leads.walk_later hops
  -- The row that is sorted is that of the subquery, if the path comes back to its table.
  let n := if first.parent.table.name ∈ (chain target.table.name later).tables then 1 else 0
  let joined := Scope.uniform (chain target.table.name later).tables (.constant 1)
  let environment := Environment.ofRow first.parent.table.name (.constant 0)
  have stored : Row.constant n ∈ Database.twoConstants association := by
    simp only [n]
    split <;> simp [Database.twoConstants]
  have rootSeen : Environment.row? ((joined ++ [(association, .constant n)]) :: environment)
      first.parent.table.name = some (.constant n) := by
    have unseen : (first.parent.table.name == association) = false := by simpa using notRoot.symm
    by_cases revisited : first.parent.table.name ∈ (chain target.table.name later).tables
    · simp [joined, n, List.lookup_append, Scope.lookup_uniform revisited, revisited]
    · simp [joined, n, List.lookup_append, Scope.lookup_uniform_of_not_mem revisited, revisited,
        List.lookup_cons, unseen, environment, Environment.row?_ofRow]
  have associationSeen : Environment.row? ((joined ++ [(association, .constant n)]) :: environment)
      association = some (.constant n) := by
    simp [joined, List.lookup_append, Scope.lookup_uniform_of_not_mem notJoined]
  have targetShown : (joined ++ [(association, Row.constant n)]).lookup target.table.name =
      some (.constant 1) := by
    have onPath := (leads.mem_chain_tables_iff hops).mpr walk.mem_tables_target
    simp [joined, List.lookup_append, Scope.lookup_uniform onPath]
  refine determined.not_of_candidate leads ?_ targetShown
  simp only [candidates, subquery, List.mem_filter]
  constructor
  · have inJoined : joined ∈ sourceRows .twoConstants environment
        (chain target.table.name later) :=
      walk.uniform_mem_sourceRows
        (fun link inLater => leads.follows link (by simp [hops, inLater])) aloneLater
        (fun table => by simp [Database.twoConstants])
    have inAssociation : [(association, Row.constant n)] ∈
        sourceRows .twoConstants environment (.table association) :=
      List.mem_map.mpr ⟨_, stored, rfl⟩
    simp only [scopes, List.mem_flatMap, List.mem_map]
    exact ⟨joined, inJoined, _, ⟨_, inAssociation, [], by simp, rfl⟩, by simp⟩
  · rw [keysHold_iff keys rootSeen associationSeen]
    exact fun pair _ => Row.agree_constant pair n

theorem alone_first (determined : key.IsDetermined root.table.name) (leads : key.Leads root target)
    (apart : key.AssociationsApart root.table.name) (hops : key.hops = first :: later) :
    first.association = none := by
  obtain ⟨rfl, -⟩ := leads.walk_later hops
  cases leads.follows first (by simp [hops]) with
  | direct alone keys differ => exact alone
  | @through association associated keys targetKeys notParent notTarget =>
      exfalso
      have notOnPath := apart.not_mem association.table
        (List.mem_filterMap.mpr ⟨first, by simp [hops], by simp [associated]⟩)
      rw [hops] at notOnPath
      have notJoined : association.table ∉ (chain target.table.name later).tables := by
        rw [leads.mem_chain_tables_iff hops]
        exact fun inLater => notOnPath (List.mem_cons_of_mem _ inLater)
      have subquery := leads.subquery?_eq hops
      rw [Source.withMentioned_eq_of_not_mem keys notParent.symm notJoined] at subquery
      by_cases isRoot : chain target.table.name later = .table first.parent.table.name
      · have onlyFirst : later = [] := by
          cases later with
          | nil => rfl
          | cons second rest => simp [chain] at isRoot
        rw [onlyFirst] at hops
        exact determined.not_of_association_alone keys hops notParent notTarget
          (by simpa [isRoot] using subquery)
      · exact determined.not_of_association_beside leads hops keys
          (determined.alone_later leads apart hops) notParent notJoined
          (by simpa [isRoot] using subquery)

end IsDetermined

end SortKey

/-- A sort along relations is determined exactly when none of them has an association table and it
follows one relation only or comes to no table twice. -/
theorem sort_isDetermined_iff {registry : Registry} (derived : registry.IsDerived)
    (sound : registry.schema.Sound) {options : QueryOptions} {model : Model} {clause : SortClause}
    {term : SortTerm} (known : model ∈ registry.schema.models)
    (accepted : SortTerm.ofClause registry options model clause = .ok term)
    (behind : term.key.hops ≠ []) (apart : term.key.AssociationsApart model.table.name) :
    term.key.IsDetermined model.table.name ↔
      (∀ link ∈ term.key.hops, link.association = none) ∧
        (term.key.hops.length = 1 ∨ (SortKey.tables model.table.name term.key.hops).Nodup) := by
  obtain ⟨target, leads⟩ := SortKey.leads_of_ofClause derived sound known accepted
  obtain ⟨first, later, hops⟩ := List.exists_cons_of_ne_nil behind
  constructor
  · intro determined
    have alone : ∀ link ∈ term.key.hops, link.association = none := by
      rw [hops, List.forall_mem_cons]
      exact ⟨determined.alone_first leads apart hops, determined.alone_later leads apart hops⟩
    refine ⟨alone, ?_⟩
    by_cases several : later = []
    · exact .inl (by simp [hops, several])
    · rw [hops]
      exact .inr (List.nodup_cons.mpr ⟨determined.root_not_mem leads hops alone several,
        determined.nodup_later leads hops alone several⟩)
  · rintro ⟨alone, oneOrOnce⟩
    by_cases once : (SortKey.tables model.table.name term.key.hops).Nodup
    · exact SortKey.Straight.isDetermined ⟨leads, alone, once⟩ hops
    · have onlyFirst : later = [] := by
        rw [hops] at oneOrOnce once
        simpa [once] using oneOrOnce
      subst onlyFirst
      obtain ⟨rfl, -⟩ := leads.walk_later hops
      have selfReferential : first.IsSelfReferential := by
        simpa [hops, SortKey.tables, Linkage.IsSelfReferential] using once
      exact leads.isDetermined_of_selfReferential hops (alone first (by simp [hops]))
        selfReferential

/-- The manager of an employee is a determined key; the main tag of a product is not. -/
theorem sort_isDetermined_manager_not_main_tag :
    (∃ term, SortTerm.ofClause (.ofSchema Sample.schema) {} Sample.employee
        ⟨"manager.name", false⟩ = .ok term ∧ term.key.IsDetermined Sample.employee.table.name) ∧
      ∃ term, SortTerm.ofClause (.ofSchema Sample.schema) {} Sample.product
        ⟨"main_tag.name", false⟩ = .ok term ∧
          ¬ term.key.IsDetermined Sample.product.table.name := by
  have derived := Registry.isDerived_ofSchema Sample.schema
  constructor
  · have accepted : SortTerm.ofClause (.ofSchema Sample.schema) {} Sample.employee
        ⟨"manager.name", false⟩ = .ok ⟨⟨[
          Sample.refersTo "manager" Sample.employee "manager_id" Sample.employee],
          ⟨"employees", Sample.column "name" .text⟩⟩, false⟩ := by decide +kernel
    refine ⟨_, accepted, ?_⟩
    rw [sort_isDetermined_iff derived Sample.schema_sound (by decide +kernel) accepted (by simp)
      ⟨by decide, by decide⟩]
    decide
  · have accepted : SortTerm.ofClause (.ofSchema Sample.schema) {} Sample.product
        ⟨"main_tag.name", false⟩ = .ok ⟨⟨[
          Sample.taggedBy "main_tag" Sample.product Sample.productTags "product_id" .oneOrZero],
          ⟨"tags", Sample.column "name" .text⟩⟩, false⟩ := by decide +kernel
    refine ⟨_, accepted, ?_⟩
    rw [sort_isDetermined_iff derived Sample.schema_sound (by decide +kernel) accepted (by simp)
      ⟨by decide, by decide⟩]
    decide

/-- Authors are sorted by the author of their profile although every author then has two candidates,
on rows of which each relation links at most one with another. -/
theorem candidates_profile_author :
    ∃ term, SortTerm.ofClause (.ofSchema Sample.schema) {} Sample.author
        ⟨"profile.author.name", false⟩ = .ok term ∧
      (∀ link ∈ term.key.hops, link.LinksAtMostOne Sample.database) ∧
      ∀ row ∈ Sample.database Sample.author.table.name,
        (candidates Sample.database (.ofRow Sample.author.table.name row) term.key).length = 2 := by
  refine ⟨⟨⟨[Sample.referredBy "profile" Sample.author Sample.profile "author_id" .oneOrZero,
    Sample.refersTo "author" Sample.profile "author_id" Sample.author],
    ⟨"authors", Sample.column "name" .text⟩⟩, false⟩, ?_, ?_, ?_⟩
  · decide +kernel
  · decide +kernel
  · decide +kernel

end GridQuery
