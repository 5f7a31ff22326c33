import GridQuery.Proofs.Resolution
import GridQuery.Sample.Schema

/-!
Which field names resolve, and to what.  A name is a label of the model, or the
names of some relations and a label of the last target with points between
them; none of its segments is empty.  The main statement says that nothing else
resolves, that a relation is missed exactly where the registry knows no such
relation, and that every refusal is about the name without the blanks around it.
-/

namespace GridQuery

namespace Text

theorem splitOn_eq {Item : Type} [DecidableEq Item] (separator : Item) (items : List Item) :
    splitOn separator items = items.splitOn separator := by
  induction items with
  | nil => rfl
  | cons item rest inductionHypothesis =>
      rw [List.splitOn_eq_splitOnP, List.splitOnP_cons_eq_if_modifyHead,
        ← List.splitOn_eq_splitOnP, ← inductionHypothesis, splitOn]
      by_cases same : item = separator
      · simp [same]
      · cases pieces : splitOn separator rest with
        | nil => exact absurd pieces (splitOn_ne_nil separator rest)
        | cons piece others => simp [same]

theorem not_mem_of_mem_splitOn {Item : Type} [DecidableEq Item] {separator : Item}
    {items piece : List Item} (member : piece ∈ splitOn separator items) : separator ∉ piece := by
  induction items generalizing piece with
  | nil =>
      obtain rfl : piece = [] := by simpa [splitOn] using member
      simp
  | cons item rest inductionHypothesis =>
      by_cases same : item = separator
      · rw [splitOn, if_pos same, List.mem_cons] at member
        rcases member with rfl | later
        · simp
        · exact inductionHypothesis later
      · cases pieces : splitOn separator rest with
        | nil => exact absurd pieces (splitOn_ne_nil separator rest)
        | cons first others =>
            simp only [pieces, List.mem_cons, forall_eq_or_imp] at inductionHypothesis
            simp only [splitOn, same, if_false, pieces, List.mem_cons] at member
            rcases member with rfl | later
            · simp [Ne.symm same, inductionHypothesis.1]
            · exact inductionHypothesis.2 _ later

theorem split_eq_iff {separator : Char} {s : String} {pieces : List String} :
    split separator s = pieces ↔
      pieces ≠ [] ∧ (String.singleton separator).intercalate pieces = s ∧
        ∀ piece ∈ pieces, separator ∉ piece.toList := by
  have joinedChars : (String.singleton separator).intercalate pieces =
      String.ofList ([separator].intercalate (pieces.map String.toList)) := by
    rw [← String.toList_inj, String.toList_ofList, String.toList_intercalate]
    simp
  have toChars : split separator s = pieces ↔
      splitOn separator s.toList = pieces.map String.toList := by
    constructor
    · rintro rfl
      simp [split, Function.comp_def]
    · intro cut
      simp [split, cut, Function.comp_def]
  rw [toChars, joinedChars]
  constructor
  · intro cut
    refine ⟨?_, ?_, ?_⟩
    · rintro rfl
      exact splitOn_ne_nil separator s.toList cut
    · rw [← cut, splitOn_eq, List.intercalate_splitOn, String.ofList_toList]
    · intro piece member
      exact not_mem_of_mem_splitOn (cut ▸ List.mem_map_of_mem member)
  · rintro ⟨notNil, joined, plain⟩
    rw [← joined, String.toList_ofList, splitOn_eq]
    exact List.splitOn_intercalate _ (by simpa using plain) (by simpa using notNil)

end Text

/-- Relations that the registry knows lead, one after another, from a model to another. -/
inductive Registry.Connects (registry : Registry) : Model → List Linkage → Model → Prop where
  | stay {model : Model} : Connects registry model [] model
  | step {model target : Model} {link : Linkage} {later : List Linkage} :
      registry.get? model link.name = some link →
      Connects registry link.target later target →
      Connects registry model (link :: later) target

theorem Registry.get?_name {registry : Registry} {model : Model} {name : String} {link : Linkage}
    (found : registry.get? model name = some link) : link.name = name := by
  simpa using List.find?_some found

namespace FieldPath

/-- Segments that are a name when they are put together with points, and of which none is empty
or has a point. -/
structure Spells (name : String) (segments : List String) : Prop where
  joined : ".".intercalate segments = name
  plain : ∀ segment ∈ segments, segment ≠ "" ∧ '.' ∉ segment.toList

/-- The path that a name stands for. -/
inductive Declares (registry : Registry) (options : QueryOptions) (model : Model) (name : String) :
    FieldPath → Prop where
  | plain {field : Field} :
      name ≠ "" → options.fieldAllowed name = true → '.' ∉ name.toList →
      model.field? name = some field →
      Declares registry options model name ⟨name, [], field⟩
  | dotted {links : List Linkage} {target : Model} {field : Field} :
      options.fieldAllowed name = true → options.relationsEnabled = true → links ≠ [] →
      registry.Connects model links target →
      target.field? field.column.label = some field →
      Spells name (links.map (·.name) ++ [field.column.label]) →
      Declares registry options model name ⟨name, links, field⟩

/-- A relation that a name asks for and the registry does not know of the model it is looked up
on, where everything before it was found. -/
inductive Misses (registry : Registry) (options : QueryOptions) (model : Model) (name : String) :
    String → Model → Prop where
  | relation {links : List Linkage} {source : Model} {relation column : String}
      {later : List String} :
      options.fieldAllowed name = true → options.relationsEnabled = true →
      Spells name (links.map (·.name) ++ relation :: later ++ [column]) →
      registry.Connects model links source →
      registry.get? source relation = none →
      Misses registry options model name relation source

section Split

variable {name : String} {hops : List String} {column : String}

theorem Spells.split_eq {segments : List String} (spelled : Spells name segments)
    (notNil : segments ≠ []) : Text.split '.' name = segments :=
  Text.split_eq_iff.mpr
    ⟨notNil, spelled.joined, fun segment member => (spelled.plain segment member).2⟩

theorem split_eq_ok_iff :
    split name = .ok (hops, column) ↔ hops ≠ [] ∧ Spells name (hops ++ [column]) := by
  constructor
  · intro cut
    simp only [split] at cut
    split at cut
    · simp at cut
    next wellFormed =>
      simp only [Except.ok.injEq, Prod.mk.injEq] at cut
      obtain ⟨cutHops, cutColumn⟩ := cut
      rw [cutHops, cutColumn] at wellFormed
      obtain ⟨notNil, joined, plain⟩ := Text.split_eq_iff.mp (rfl : Text.split '.' name = _)
      have segments : Text.split '.' name = hops ++ [column] := by
        rw [← cutHops, ← cutColumn, List.getLast?_eq_some_getLast notNil]
        exact (List.dropLast_append_getLast notNil).symm
      rw [segments] at joined plain
      simp only [List.isEmpty_iff, String.isEmpty_iff, List.any_eq_true, not_or, not_exists,
        not_and] at wellFormed
      obtain ⟨someHop, someColumn, someHops⟩ := wellFormed
      refine ⟨someHop, joined, fun segment member => ⟨?_, plain segment member⟩⟩
      rcases List.mem_append.mp member with isHop | isColumn
      · exact someHops segment isHop
      · rwa [List.mem_singleton.mp isColumn]
  · rintro ⟨someHop, spelled⟩
    have segments := spelled.split_eq (by simp)
    have someColumn := (spelled.plain column (by simp)).1
    have noEmptyHop : ¬ hops.any (·.isEmpty) = true := by
      simp only [List.any_eq_true, String.isEmpty_iff, not_exists, not_and]
      intro hop isHop
      exact (spelled.plain hop (by simp [isHop])).1
    simp [split, segments, someHop, someColumn, noEmptyHop]

theorem split_eq_error {error : QueryError} (refused : split name = .error error) :
    error = .field .malformed name := by
  simp only [split] at refused
  split at refused
  · simpa using refused.symm
  · simp at refused

theorem Spells.point_mem (spelled : Spells name (hops ++ [column])) (someHop : hops ≠ []) :
    '.' ∈ name.toList := by
  by_contra noPoint
  have whole : Text.split '.' name = [name] :=
    Text.split_eq_iff.mpr ⟨by simp, by simp, by simpa using noPoint⟩
  rw [spelled.split_eq (by simp)] at whole
  cases hops with
  | nil => exact someHop rfl
  | cons hop later => simp at whole

end Split

section Follow

variable {registry : Registry} {name : String} {model : Model}

theorem follow_eq_ok_iff {hops : List String} {links : List Linkage} {target : Model} :
    follow registry name model hops = .ok (links, target) ↔
      links.map (·.name) = hops ∧ registry.Connects model links target := by
  induction hops generalizing model links with
  | nil =>
      rw [follow]
      constructor
      · intro followed
        obtain ⟨rfl, rfl⟩ : [] = links ∧ model = target := by simpa using followed
        exact ⟨rfl, .stay⟩
      · rintro ⟨noNames, connected⟩
        obtain rfl : links = [] := by simpa using noNames
        cases connected
        rfl
  | cons hop later inductionHypothesis =>
      constructor
      · intro followed
        cases found : registry.get? model hop with
        | none => simp [follow, found] at followed
        | some link =>
            simp only [follow, found, bind_eq_ok_iff] at followed
            obtain ⟨⟨others, last⟩, followedLater, result⟩ := followed
            obtain ⟨rfl, rfl⟩ : link :: others = links ∧ last = target := by simpa using result
            obtain ⟨named, connected⟩ := inductionHypothesis.mp followedLater
            have linkName := registry.get?_name found
            exact ⟨by simp [linkName, named], .step (linkName ▸ found) connected⟩
      · rintro ⟨named, connected⟩
        cases connected with
        | stay => simp at named
        | @step _ _ link others found connectedLater =>
            obtain ⟨rfl, namedLater⟩ : link.name = hop ∧ others.map (·.name) = later := by
              simpa using named
            have followedLater := inductionHypothesis.mpr ⟨namedLater, connectedLater⟩
            simp [follow, found, followedLater, bind, Except.bind]

theorem follow_eq_error_iff {hops : List String} {error : QueryError} :
    follow registry name model hops = .error error ↔
      ∃ links source relation later,
        hops = links.map (·.name) ++ relation :: later ∧ registry.Connects model links source ∧
        registry.get? source relation = none ∧
        error = .field (.unknownRelation relation source.name) name := by
  induction hops generalizing model with
  | nil => simp [follow]
  | cons hop later inductionHypothesis =>
      constructor
      · intro failed
        cases found : registry.get? model hop with
        | none =>
            have named : error = .field (.unknownRelation hop model.name) name := by
              simpa [follow, found] using failed.symm
            exact ⟨[], model, hop, later, rfl, .stay, found, named⟩
        | some link =>
            simp only [follow, found, bind_eq_error_iff] at failed
            rcases failed with failedLater | ⟨result, -, impossible⟩
            · obtain ⟨links, source, relation, rest, rfl, connected, missing, rfl⟩ :=
                inductionHypothesis.mp failedLater
              have linkName := registry.get?_name found
              exact ⟨link :: links, source, relation, rest, by simp [linkName],
                .step (linkName ▸ found) connected, missing, rfl⟩
            · simp at impossible
      · rintro ⟨links, source, relation, rest, named, connected, missing, rfl⟩
        cases connected with
        | stay =>
            obtain ⟨rfl, rfl⟩ : hop = relation ∧ later = rest := by simpa using named
            simp [follow, missing]
        | @step _ _ link others found connectedLater =>
            obtain ⟨rfl, rfl⟩ :
                hop = link.name ∧ later = others.map (·.name) ++ relation :: rest := by
              simpa using named
            have failedLater := inductionHypothesis.mpr
              ⟨others, source, relation, rest, rfl, connectedLater, missing, rfl⟩
            simp [follow, found, failedLater, bind, Except.bind]

end Follow

section Resolve

variable {registry : Registry} {options : QueryOptions} {model : Model} {name : String}
  {path : FieldPath}

theorem resolvePlain_eq_ok_iff :
    resolvePlain model name = .ok path ↔
      ∃ field, model.field? name = some field ∧ path = ⟨name, [], field⟩ := by
  cases found : model.field? name with
  | none => simp [resolvePlain, found]
  | some field => simp [resolvePlain, found, eq_comm]

theorem resolveDotted_eq_ok_iff :
    resolveDotted registry model name = .ok path ↔
      ∃ links target field, links ≠ [] ∧ registry.Connects model links target ∧
        target.field? field.column.label = some field ∧
        Spells name (links.map (·.name) ++ [field.column.label]) ∧
        path = ⟨name, links, field⟩ := by
  simp only [resolveDotted, bind_eq_ok_iff, Prod.exists, split_eq_ok_iff, follow_eq_ok_iff]
  constructor
  · rintro ⟨hops, column, ⟨someHop, spelled⟩, links, target, ⟨rfl, connected⟩, ofTarget⟩
    cases found : target.field? column with
    | none => simp [found] at ofTarget
    | some field =>
        obtain rfl := (Model.field?_eq_some found).1
        exact ⟨links, target, field, by simpa using someHop, connected, found, spelled,
          by simpa [found] using ofTarget.symm⟩
  · rintro ⟨links, target, field, someLink, connected, found, spelled, rfl⟩
    exact ⟨_, _, ⟨by simpa using someLink, spelled⟩, links, target, ⟨rfl, connected⟩,
      by simp [found]⟩

/-- A dotted name is refused for a relation exactly when its segments before that relation were
followed and it was not found. -/
theorem resolveDotted_eq_unknownRelation_iff {relation owner about : String} :
    resolveDotted registry model name = .error (.field (.unknownRelation relation owner) about) ↔
      about = name ∧ ∃ links source later column, source.name = owner ∧
        Spells name (links.map (·.name) ++ relation :: later ++ [column]) ∧
        registry.Connects model links source ∧ registry.get? source relation = none := by
  simp only [resolveDotted, bind_eq_error_iff, Prod.exists, split_eq_ok_iff, follow_eq_error_iff]
  constructor
  · rintro (refused | ⟨hops, column, ⟨-, spelled⟩, missing | ⟨links, target, -, ofTarget⟩⟩)
    · simpa using split_eq_error refused
    · obtain ⟨links, source, missed, later, rfl, connected, notFound, error⟩ := missing
      obtain ⟨⟨rfl, rfl⟩, rfl⟩ : (relation = missed ∧ owner = source.name) ∧ about = name := by
        simpa using error
      exact ⟨rfl, links, source, later, column, rfl, spelled, connected, notFound⟩
    · cases found : target.field? column <;> simp [found] at ofTarget
  · rintro ⟨rfl, links, source, later, column, rfl, spelled, connected, notFound⟩
    exact .inr ⟨_, column, ⟨by simp, spelled⟩,
      .inl ⟨links, source, relation, later, rfl, connected, notFound, rfl⟩⟩

theorem resolveDotted_eq_error {error : QueryError}
    (refused : resolveDotted registry model name = .error error) :
    ∃ problem, error = .field problem name := by
  simp only [resolveDotted, bind_eq_error_iff, Prod.exists, follow_eq_error_iff] at refused
  rcases refused with badName | ⟨hops, column, -, missing | ⟨links, target, -, ofTarget⟩⟩
  · exact ⟨_, split_eq_error badName⟩
  · obtain ⟨links, source, relation, later, -, -, -, rfl⟩ := missing
    exact ⟨_, rfl⟩
  · cases found : target.field? column with
    | none => exact ⟨_, by simpa [found] using ofTarget.symm⟩
    | some field => simp [found] at ofTarget

theorem resolveName_of_plain (allowed : options.fieldAllowed name = true) (given : name ≠ "")
    (noPoint : '.' ∉ name.toList) :
    resolveName registry options model name = resolvePlain model name := by
  simp [resolveName, given, allowed, noPoint]

theorem resolveName_of_dotted (allowed : options.fieldAllowed name = true)
    (enabled : options.relationsEnabled = true) (point : '.' ∈ name.toList) :
    resolveName registry options model name = resolveDotted registry model name := by
  have given : name ≠ "" := by
    rintro rfl
    simp at point
  simp [resolveName, given, allowed, enabled, point]

variable (registry options model name) in
theorem resolveName_cases :
    (options.fieldAllowed name = true ∧ name ≠ "" ∧ '.' ∉ name.toList) ∨
      (options.fieldAllowed name = true ∧ options.relationsEnabled = true ∧ '.' ∈ name.toList) ∨
      ∃ problem, (problem = .empty ∨ problem = .notAllowed ∨ problem = .relationsDisabled) ∧
        resolveName registry options model name = .error (.field problem name) := by
  by_cases given : name = ""
  · exact .inr (.inr ⟨.empty, by simp, by simp [resolveName, given]⟩)
  by_cases allowed : options.fieldAllowed name = true
  · by_cases point : '.' ∈ name.toList
    · by_cases enabled : options.relationsEnabled = true
      · exact .inr (.inl ⟨allowed, enabled, point⟩)
      · exact .inr (.inr ⟨.relationsDisabled, by simp,
          by simp [resolveName, given, allowed, point, enabled]⟩)
    · exact .inl ⟨allowed, given, point⟩
  · exact .inr (.inr ⟨.notAllowed, by simp, by simp [resolveName, given, allowed]⟩)

theorem resolveName_eq_error {error : QueryError}
    (refused : resolveName registry options model name = .error error) :
    ∃ problem, error = .field problem name := by
  rcases resolveName_cases registry options model name with
    ⟨allowed, given, noPoint⟩ | ⟨allowed, enabled, point⟩ | ⟨problem, -, refusedSo⟩
  · rw [resolveName_of_plain allowed given noPoint] at refused
    cases found : model.field? name with
    | none => exact ⟨_, by simpa [resolvePlain, found] using refused.symm⟩
    | some field => simp [resolvePlain, found] at refused
  · rw [resolveName_of_dotted allowed enabled point] at refused
    exact resolveDotted_eq_error refused
  · exact ⟨problem, by simpa [refusedSo] using refused.symm⟩

theorem resolveName_eq_ok_iff :
    resolveName registry options model name = .ok path ↔
      Declares registry options model name path := by
  constructor
  · intro resolved
    rcases resolveName_cases registry options model name with
      ⟨allowed, given, noPoint⟩ | ⟨allowed, enabled, point⟩ | ⟨problem, -, refused⟩
    · rw [resolveName_of_plain allowed given noPoint, resolvePlain_eq_ok_iff] at resolved
      obtain ⟨field, found, rfl⟩ := resolved
      exact .plain given allowed noPoint found
    · rw [resolveName_of_dotted allowed enabled point, resolveDotted_eq_ok_iff] at resolved
      obtain ⟨links, target, field, someLink, connected, found, spelled, rfl⟩ := resolved
      exact .dotted allowed enabled someLink connected found spelled
    · rw [refused] at resolved
      simp at resolved
  · intro declared
    cases declared with
    | plain given allowed noPoint found =>
        rw [resolveName_of_plain allowed given noPoint, resolvePlain_eq_ok_iff]
        exact ⟨_, found, rfl⟩
    | dotted allowed enabled someLink connected found spelled =>
        have point := spelled.point_mem (by simpa using someLink)
        rw [resolveName_of_dotted allowed enabled point, resolveDotted_eq_ok_iff]
        exact ⟨_, _, _, someLink, connected, found, spelled, rfl⟩

theorem resolveName_eq_unknownRelation_iff {relation owner about : String} :
    resolveName registry options model name =
        .error (.field (.unknownRelation relation owner) about) ↔
      about = name ∧
        ∃ source, source.name = owner ∧ Misses registry options model name relation source := by
  constructor
  · intro refused
    rcases resolveName_cases registry options model name with
      ⟨allowed, given, noPoint⟩ | ⟨allowed, enabled, point⟩ | ⟨problem, other, refusedSo⟩
    · rw [resolveName_of_plain allowed given noPoint] at refused
      cases found : model.field? name <;> simp [resolvePlain, found] at refused
    · rw [resolveName_of_dotted allowed enabled point,
        resolveDotted_eq_unknownRelation_iff] at refused
      obtain ⟨rfl, links, source, later, column, rfl, spelled, connected, notFound⟩ := refused
      exact ⟨rfl, source, rfl, .relation allowed enabled spelled connected notFound⟩
    · rw [refusedSo] at refused
      rcases other with rfl | rfl | rfl <;> simp at refused
  · rintro ⟨rfl, source, rfl, missed⟩
    cases missed with
    | relation allowed enabled spelled connected notFound =>
        have point := spelled.point_mem (by simp)
        rw [resolveName_of_dotted allowed enabled point, resolveDotted_eq_unknownRelation_iff]
        exact ⟨rfl, _, source, _, _, rfl, spelled, connected, notFound⟩

end Resolve

/-- Exactly the declared names resolve, each to the path that it declares.  What does not resolve
is refused with an error about the name without the blanks around it, and for a relation exactly
where the name is well formed and the first of its relations that is not found is that one. -/
theorem resolve_iff_declares (registry : Registry) (options : QueryOptions) (model : Model)
    (requested : String) :
    (∀ path, resolve registry options model (.str requested) = .ok path ↔
        Declares registry options model (Text.strip requested) path) ∧
      ((∃ path, resolve registry options model (.str requested) = .ok path) ∨
        ∃ problem, resolve registry options model (.str requested) =
          reject (.field problem (Text.strip requested))) ∧
      ∀ relation owner about, resolve registry options model (.str requested) =
          reject (.field (.unknownRelation relation owner) about) ↔
        about = Text.strip requested ∧ ∃ source, source.name = owner ∧
          Misses registry options model (Text.strip requested) relation source := by
  simp only [resolve_str, ofChecked_eq_ok_iff, ofChecked_eq_reject_iff]
  refine ⟨fun path => resolveName_eq_ok_iff, ?_,
    fun relation owner about => resolveName_eq_unknownRelation_iff⟩
  cases resolved : resolveName registry options model (Text.strip requested) with
  | ok path => exact .inl ⟨path, rfl⟩
  | error error =>
      obtain ⟨problem, rfl⟩ := resolveName_eq_error resolved
      exact .inr ⟨problem, rfl⟩

example : resolve (.ofSchema Sample.schema) {} Sample.post (.str " author.employer.name") =
    reject (.field (.unknownRelation "employer" "Author") "author.employer.name") := by
  decide +kernel

end FieldPath

end GridQuery
