import GridQuery.Proofs.DayModes
import GridQuery.Proofs.Exchange
import GridQuery.Proofs.Instant
import GridQuery.Proofs.Alike
import GridQuery.Proofs.Constants

/-!
Texts of moments and the rows they select.  A text of a moment is brought to a
column with its offset, universal time if it has none, but the store keeps and
compares the wall clock alone.  So two texts select the same rows exactly if
they show the same wall clock, and two texts of one instant do so exactly if
they have the same offset.
-/

namespace GridQuery

open Text Coercion Store MatchMode

/-- A text that denotes a moment and does not name a day; blanks around it do not count. -/
structure DenotesMoment (s : String) (time : Moment) : Prop where
  noDay : namesDay (.str s) = false
  reads : readMoment? (strip s) = some time

/-- Moments that show the same day and the same time of day. -/
inductive Value.SameWall : Value → Value → Prop
  | moments {time other : Moment} : time.wall = other.wall → SameWall (.moment time) (.moment other)

namespace Store

theorem Parameter.momentText_eq {time other : Moment} (same : time.wall = other.wall) :
    momentText time = momentText other := by
  obtain ⟨day, clock⟩ := Moment.wall_eq_iff.mp same
  rw [momentText, momentText, day, clock]

theorem Parameter.ofValues?_sameWall {values others : List Value}
    (same : List.Forall₂ Value.SameWall values others) :
    ofValues? .moment values = ofValues? .moment others := by
  have kind {values others : List Value} (same : List.Forall₂ Value.SameWall values others) :
      sharedKind .moment values = .moment ∧ sharedKind .moment others = .moment := by
    cases same with
    | nil => exact ⟨rfl, rfl⟩
    | cons first => cases first; exact ⟨rfl, rfl⟩
  rw [ofValues?_eq, ofValues?_eq, beside, beside, (kind same).1, (kind same).2, List.mapM_map,
    List.mapM_map]
  induction same with
  | nil => rfl
  | cons first _ inductionHypothesis =>
      obtain ⟨sameWall⟩ := first
      rw [List.mapM_cons, List.mapM_cons, inductionHypothesis]
      simp only [Function.comp_apply, ofConstant?, ofKind?, momentText_eq sameWall]

end Store

namespace Condition.Exchanges

variable {field : Field} (moments : field.column.kind = .moment)

theorem of_sameParameters {first second : Condition}
    (sameParameters : parameters? first = parameters? second)
    (sameNames : ∀ tables,
      Names.conditionResolves tables first = Names.conditionResolves tables second)
    (sameTruth : ∀ database environment,
      Store.truth database environment first = Store.truth database environment second) :
    Exchanges first second :=
  ⟨by rw [sameParameters], sameNames, sameTruth⟩

include moments

theorem compare {value other : Value} (same : value.SameWall other) (comparison : Comparison) :
    Exchanges (.compare field comparison value) (.compare field comparison other) := by
  have form := Parameter.ofValues?_sameWall (.cons same .nil)
  apply of_sameParameters
  · rw [parameters?, parameters?, moments, form]
  · exact fun tables => rfl
  · intro database environment
    rw [Store.truth, Store.truth, moments, compareWith, compareWith, form]

theorem between {low otherLow high otherHigh : Value} (sameLow : low.SameWall otherLow)
    (sameHigh : high.SameWall otherHigh) :
    Exchanges (.between field low high) (.between field otherLow otherHigh) := by
  have lowForm := Parameter.ofValues?_sameWall (.cons sameLow .nil)
  have highForm := Parameter.ofValues?_sameWall (.cons sameHigh .nil)
  apply of_sameParameters
  · rw [parameters?, parameters?, moments, lowForm, highForm]
  · exact fun tables => rfl
  · intro database environment
    simp only [Store.truth, moments, compareWith, lowForm, highForm]

theorem span {low otherLow high otherHigh : Value} (sameLow : low.SameWall otherLow)
    (sameHigh : high.SameWall otherHigh) (negated : Bool) :
    Exchanges (.span field negated low high) (.span field negated otherLow otherHigh) := by
  have lowForm := Parameter.ofValues?_sameWall (.cons sameLow .nil)
  have highForm := Parameter.ofValues?_sameWall (.cons sameHigh .nil)
  apply of_sameParameters
  · rw [parameters?, parameters?, moments, lowForm, highForm]
  · exact fun tables => rfl
  · intro database environment
    simp only [Store.truth, moments, compareWith, lowForm, highForm]

theorem among {values others : List Value} (same : List.Forall₂ Value.SameWall values others)
    (negated : Bool) : Exchanges (.among field negated values) (.among field negated others) := by
  have form := Parameter.ofValues?_sameWall same
  apply of_sameParameters
  · rw [parameters?, parameters?, moments, form]
  · exact fun tables => rfl
  · intro database environment
    simp only [Store.truth, moments, amongValues, form]

end Condition.Exchanges

namespace Filter

/-- A value and the one that stands in its place when a text is rewritten. -/
def Rewritten (s t : String) (value other : Value) : Prop :=
  value = other ∨ value = .str s ∧ other = .str t

/-- The modes that compare with moments, other than those of days. -/
def instantModes : List MatchMode :=
  equalityModes ++ orderModes ++ listModes ++ [between]

/-- What a mode is asked with, and the same with a text rewritten, where it stands alone or among
the items of a mode that takes some. -/
inductive Rewrites (s t : String) : MatchMode → Value → Value → Prop
  | alone {mode : MatchMode} (known : mode ∈ instantModes) : Rewrites s t mode (.str s) (.str t)
  | list {mode : MatchMode} {items others : List Value} (takesItems : mode ∈ listModes ++ [between])
      (rewritten : List.Forall₂ (Rewritten s t) items others) :
      Rewrites s t mode (.list items) (.list others)
  | tuple {mode : MatchMode} {items others : List Value}
      (takesItems : mode ∈ listModes ++ [between])
      (rewritten : List.Forall₂ (Rewritten s t) items others) :
      Rewrites s t mode (.tuple items) (.tuple others)
  | set {mode : MatchMode} {items others : List Value} (takesItems : mode ∈ listModes ++ [between])
      (rewritten : List.Forall₂ (Rewritten s t) items others) :
      Rewrites s t mode (.set items) (.set others)

variable {field : Field} {s t : String} {time other : Moment}

theorem ne_empty_of_denotes (denotes : DenotesMoment s time) : s ≠ "" := by
  rintro rfl
  have unread : readMoment? (strip "") = none := by decide +kernel
  simpa [unread] using denotes.reads

theorem dayAfter_sameWall {start second : Moment} (same : start.wall = second.wall) :
    Alike (fun stop other => Value.SameWall (.moment stop) (.moment other)) (dayAfter start)
      (dayAfter second) := by
  obtain ⟨day, clock⟩ := Moment.wall_eq_iff.mp same
  unfold dayAfter Moment.nextDay?
  rw [day]
  cases second.date.next? with
  | none => exact .fault _
  | some next => exact .ok (.moments (Moment.wall_eq_iff.mpr ⟨rfl, clock⟩))

section Moments

variable (moments : field.column.kind = .moment)

include moments

theorem coerce_denotes (denotes : DenotesMoment s time) :
    coerce field.column (.str s) = .ok (.moment time.assumeUtc) := by
  rw [coerce, moments]
  simp only [toMoment, givenText?_str, Value.written, bind, Except.bind, denotes.reads]
  rfl

theorem equal_denotes (denotes : DenotesMoment s time) (negated : Bool) :
    equal field negated (.str s) =
      .ok (.compare field (if negated then .ne else .eq) (.moment time.assumeUtc)) := by
  have read : scalar field (.str s) = .ok (.moment time.assumeUtc) := coerce_denotes moments denotes
  simp [equal, read, bind, Except.bind, denotes.noDay, equality]

theorem byOrder_denotes (denotes : DenotesMoment s time) (comparison : Comparison) :
    byOrder field comparison (.str s) =
      .ok (.compare field comparison (.moment time.assumeUtc)) := by
  have read : scalar field (.str s) = .ok (.moment time.assumeUtc) := coerce_denotes moments denotes
  simp [byOrder, read, bind, Except.bind, ordered]

theorem coerce_same (value : Value) :
    Alike Value.SameWall (coerce field.column value) (coerce field.column value) := by
  rw [coerce, moments]
  rcases toMoment field.column.label value with (error | fault) | moment
  · exact .rejected error error
  · exact .fault fault
  · exact .ok (.moments rfl)

theorem ordered_sameWall {value second : Value} (same : value.SameWall second)
    (comparison : Comparison) :
    Alike Condition.Exchanges (ordered field comparison value)
      (ordered field comparison second) := by
  have exchanges := Condition.Exchanges.compare moments same comparison
  cases same
  exact .ok exchanges

theorem some_ordered_sameWall {value second : Value} (same : value.SameWall second)
    (comparison : Comparison) :
    Alike (Option.Rel Condition.Exchanges) (some <$> ordered field comparison value)
      (some <$> ordered field comparison second) :=
  (ordered_sameWall moments same comparison).map_some

theorem closedRange_sameWall {low high otherLow otherHigh : Option Value}
    (sameLow : Option.Rel Value.SameWall low otherLow)
    (sameHigh : Option.Rel Value.SameWall high otherHigh) :
    Alike (Option.Rel Condition.Exchanges) (closedRange field low high)
      (closedRange field otherLow otherHigh) := by
  cases sameLow with
  | none =>
      cases sameHigh with
      | none => exact .ok .none
      | some sameHigh => exact some_ordered_sameWall moments sameHigh .le
  | some sameLow =>
      cases sameHigh with
      | none => exact some_ordered_sameWall moments sameLow .ge
      | some sameHigh => exact .ok (.some (.between moments sameLow sameHigh))

variable (denotes : DenotesMoment s time) (denotesToo : DenotesMoment t other)
  (sameWall : time.wall = other.wall)

include denotes denotesToo sameWall

theorem coerce_rewritten {value second : Value} (rewritten : Rewritten s t value second) :
    Alike Value.SameWall (coerce field.column value) (coerce field.column second) := by
  rcases rewritten with rfl | ⟨rfl, rfl⟩
  · exact coerce_same moments _
  · rw [coerce_denotes moments denotes, coerce_denotes moments denotesToo]
    exact .ok (.moments sameWall)

theorem mapM_coerce_rewritten {items others : List Value}
    (rewritten : List.Forall₂ (Rewritten s t) items others) :
    Alike (List.Forall₂ Value.SameWall)
      ((items.filter (!·.isNull)).mapM (coerce field.column))
      ((others.filter (!·.isNull)).mapM (coerce field.column)) := by
  induction rewritten with
  | nil => exact .ok .nil
  | @cons item second items others itemRewritten _ inductionHypothesis =>
      have sameNull : item.isNull = second.isNull := by
        rcases itemRewritten with rfl | ⟨rfl, rfl⟩ <;> rfl
      rw [List.filter_cons, List.filter_cons, sameNull]
      split
      · rw [List.mapM_cons, List.mapM_cons]
        apply (coerce_rewritten moments denotes denotesToo sameWall itemRewritten).bind
        intro value otherValue same
        apply inductionHypothesis.bind
        intro values otherValues allSame
        exact .ok (.cons same allSame)
      · exact inductionHypothesis

theorem membership_rewritten {items others : List Value}
    (rewritten : List.Forall₂ (Rewritten s t) items others) (negated : Bool) :
    Alike (Option.Rel Condition.Exchanges)
      (((items.filter (!·.isNull)).mapM (coerce field.column)) >>= fun values =>
        .ok (if values.isEmpty then none else some (.among field negated values)))
      (((others.filter (!·.isNull)).mapM (coerce field.column)) >>= fun values =>
        .ok (if values.isEmpty then none else some (.among field negated values))) := by
  apply (mapM_coerce_rewritten moments denotes denotesToo sameWall rewritten).bind
  intro values otherValues same
  have exchanges := Condition.Exchanges.among moments same negated
  cases same with
  | nil => exact .ok .none
  | cons => exact .ok (.some exchanges)

theorem bound?_rewritten {value second : Value} (rewritten : Rewritten s t value second) :
    Alike (Option.Rel Value.SameWall) (bound? field value) (bound? field second) := by
  rcases rewritten with rfl | ⟨rfl, rfl⟩
  · unfold bound?
    split
    · exact .ok .none
    · split
      · exact .ok .none
      · exact (coerce_same moments _).map_some
    · exact (coerce_same moments _).map_some
  · have given := ne_empty_of_denotes denotes
    have givenToo := ne_empty_of_denotes denotesToo
    simp only [bound?, String.isEmpty_iff, given, givenToo, if_false]
    exact (coerce_rewritten moments denotes denotesToo sameWall (.inr ⟨rfl, rfl⟩)).map_some

theorem range_rewritten {low high otherLow otherHigh : Value}
    (lowRewritten : Rewritten s t low otherLow) (highRewritten : Rewritten s t high otherHigh) :
    Alike (Option.Rel Condition.Exchanges) (range field low high)
      (range field otherLow otherHigh) := by
  have sameDay : namesDay high = namesDay otherHigh := by
    rcases highRewritten with rfl | ⟨rfl, rfl⟩
    · rfl
    · rw [denotes.noDay, denotesToo.noDay]
  apply (bound?_rewritten moments denotes denotesToo sameWall lowRewritten).bind
  intro lower otherLower sameLower
  apply (bound?_rewritten moments denotes denotesToo sameWall highRewritten).bind
  intro upper otherUpper sameUpper
  cases sameUpper with
  | none => exact closedRange_sameWall moments sameLower .none
  | some same =>
      obtain ⟨sameStart⟩ := same
      dsimp only
      rw [sameDay]
      split
      · apply (dayAfter_sameWall sameStart).bind
        intro stop otherStop sameStop
        cases sameLower with
        | none => exact some_ordered_sameWall moments sameStop .lt
        | some sameLow => exact .ok (.some (.span moments sameLow sameStop false))
      · exact closedRange_sameWall moments sameLower (.some (.moments sameStart))

theorem rangeOf_rewritten {items others : List Value}
    (rewritten : List.Forall₂ (Rewritten s t) items others) :
    Alike (Option.Rel Condition.Exchanges) (rangeOf field (.list items))
      (rangeOf field (.list others)) := by
  cases rewritten with
  | nil => exact .rejected _ _
  | cons low rest =>
      cases rest with
      | nil => exact .rejected _ _
      | cons high more =>
          cases more with
          | nil => exact range_rewritten moments denotes denotesToo sameWall low high
          | cons => exact .rejected _ _

theorem build_rewritten {mode : MatchMode} {value second : Value}
    (rewrites : Rewrites s t mode value second) :
    Alike (Option.Rel Condition.Exchanges) (build field mode value) (build field mode second) := by
  have sameAssumed : Value.SameWall (.moment time.assumeUtc) (.moment other.assumeUtc) :=
    .moments sameWall
  have equalRewritten (negated : Bool) : Alike (Option.Rel Condition.Exchanges)
      (some <$> equal field negated (.str s)) (some <$> equal field negated (.str t)) := by
    rw [equal_denotes moments denotes, equal_denotes moments denotesToo]
    exact .ok (.some (.compare moments sameAssumed _))
  have byOrderRewritten (comparison : Comparison) : Alike (Option.Rel Condition.Exchanges)
      (some <$> byOrder field comparison (.str s))
      (some <$> byOrder field comparison (.str t)) := by
    rw [byOrder_denotes moments denotes, byOrder_denotes moments denotesToo]
    exact .ok (.some (.compare moments sameAssumed _))
  have amongRewritten {items others : List Value}
      (rewritten : List.Forall₂ (Rewritten s t) items others) (negated : Bool) :=
    membership_rewritten moments denotes denotesToo sameWall rewritten negated
  have rangeRewritten {items others : List Value}
      (rewritten : List.Forall₂ (Rewritten s t) items others) :=
    rangeOf_rewritten moments denotes denotesToo sameWall rewritten
  cases rewrites with
  | alone known =>
      simp only [instantModes, equalityModes, orderModes, listModes, List.cons_append,
        List.nil_append, List.mem_cons, List.not_mem_nil, or_false] at known
      have single : List.Forall₂ (Rewritten s t) [.str s] [.str t] := .cons (.inr ⟨rfl, rfl⟩) .nil
      rcases known with rfl | rfl | rfl | rfl | rfl | rfl | rfl | rfl | rfl
      · exact equalRewritten false
      · exact equalRewritten true
      · exact byOrderRewritten .lt
      · exact byOrderRewritten .le
      · exact byOrderRewritten .gt
      · exact byOrderRewritten .ge
      · exact amongRewritten single false
      · exact amongRewritten single true
      · exact .rejected _ _
  | list takesItems rewritten =>
      rcases mem_itemModes takesItems with rfl | rfl | rfl
      · exact amongRewritten rewritten false
      · exact amongRewritten rewritten true
      · exact rangeRewritten rewritten
  | tuple takesItems rewritten =>
      rcases mem_itemModes takesItems with rfl | rfl | rfl
      · exact amongRewritten rewritten false
      · exact amongRewritten rewritten true
      · rw [build, build, rangeOf_tuple, rangeOf_tuple]
        exact rangeRewritten rewritten
  | set takesItems rewritten =>
      rcases mem_itemModes takesItems with rfl | rfl | rfl
      · exact amongRewritten rewritten false
      · exact amongRewritten rewritten true
      · exact .rejected _ _

end Moments

/-- A column of moments in sight holds null or the wall clock of one. -/
def HoldsMoments (environment : Environment) (field : Field) : Prop :=
  environment.cell field = .null ∨
    ∃ stored : Moment, environment.cell field = .text (Parameter.momentText stored)

/-- Whatever asks for the one text, selects the same rows as when it asks for the other. -/
def SelectAlike (field : Field) (s t : String) : Prop :=
  ∀ mode value other, Rewrites s t mode value other → ∀ database environment,
    HoldsMoments environment field →
      (Selects database environment field mode value ↔
        Selects database environment field mode other)

theorem selects_iff_of_alike {mode : MatchMode} {value second : Value}
    (alike : Alike (Option.Rel Condition.Exchanges) (build field mode value)
      (build field mode second)) (database : Database) (environment : Environment) :
    Selects database environment field mode value ↔
      Selects database environment field mode second := by
  unfold Selects
  generalize build field mode value = first at alike
  generalize build field mode second = later at alike
  cases alike with
  | rejected => simp
  | fault => simp
  | ok same =>
      cases same with
      | none => simp
      | some exchanges => simp [holds, exchanges.truth]

/-- Texts of moments select the same rows exactly if they show the same wall clock. -/
theorem selectAlike_iff (moments : field.column.kind = .moment) (denotes : DenotesMoment s time)
    (denotesToo : DenotesMoment t other) :
    SelectAlike field s t ↔ time.wall = other.wall := by
  constructor
  · intro alike
    -- The row whose cell is the wall clock of the one text tells the two apart.
    let environment : Environment := .ofRow field.table fun _ => .text (Parameter.momentText time)
    have cell : environment.cell field = .text (Parameter.momentText time) :=
      Environment.cell_of_row? (Environment.row?_ofRow _ _)
    have built {text : String} {moment : Moment} (denotes : DenotesMoment text moment) :
        build field .equals (.str text) =
          .ok (some (.compare field .eq (.moment moment.assumeUtc))) :=
      congrArg (some <$> ·) (equal_denotes moments denotes false)
    have same := alike .equals _ _ (.alone (by decide)) (fun _ => []) environment
      (.inr ⟨time, cell⟩)
    rw [selects_iff_holds (built denotes), selects_iff_holds (built denotesToo),
      holds_compare_moment_iff moments cell, holds_compare_moment_iff moments cell] at same
    have equal : Comparison.eq.test (compare time.wall time.wall) = true := by
      simp [Comparison.test]
    have equalToo : Comparison.eq.test (compare time.wall other.wall) = true := same.mp equal
    exact compare_eq_iff_eq.mp (beq_iff_eq.mp equalToo)
  · intro sameWall mode value second rewrites database environment _
    exact selects_iff_of_alike (build_rewritten moments denotes denotesToo sameWall rewrites)
      database environment

/-- A text of a moment is brought to a column of moments with its offset, universal time if it has
none.  Two such texts select the same rows exactly if they show the same wall clock; so two texts of
one instant do exactly if their offsets are the same. -/
theorem selectAlike_iff_zone (moments : field.column.kind = .moment)
    (denotes : DenotesMoment s time) (denotesToo : DenotesMoment t other) :
    coerce field.column (.str s) = .ok (.moment ⟨time.date, time.clock, some time.zone⟩) ∧
      (SelectAlike field s t ↔ time.wall = other.wall) ∧
      (time.instant = other.instant → (SelectAlike field s t ↔ time.zone = other.zone)) := by
  have alike := selectAlike_iff moments denotes denotesToo
  refine ⟨?_, alike, fun sameInstant => ?_⟩
  · rw [coerce_denotes moments denotes, Moment.assumeUtc, Moment.zone]
    cases time.offset <;> rfl
  · rw [alike, Moment.wall_eq_iff_of_instant sameInstant]

/-- Half past nine by universal time, with and without the mark of it, and three in the afternoon
by a clock that is five and a half hours ahead: the one instant is asked for in two ways. -/
theorem selectAlike_iff_zone_posts :
    let createdAt : Field := Sample.field Sample.post.table "created_at" .moment
    SelectAlike createdAt "2026-02-26T09:30:00Z" " 2026-02-26 09:30 " ∧
      ¬ SelectAlike createdAt "2026-02-26T09:30:00Z" "2026-02-26T15:00:00+05:30" := by
  intro createdAt
  let day : Date := ⟨2026, 2, 26, by decide⟩
  let morning : Clock := ⟨9, 30, 0, 0, by decide⟩
  let afternoon : Clock := ⟨15, 0, 0, 0, by decide⟩
  let ahead : Offset := ⟨19800000000, by decide⟩
  have zulu : DenotesMoment "2026-02-26T09:30:00Z" ⟨day, morning, some .utc⟩ :=
    ⟨by decide +kernel, by decide +kernel⟩
  have naive : DenotesMoment " 2026-02-26 09:30 " ⟨day, morning, none⟩ :=
    ⟨by decide +kernel, by decide +kernel⟩
  have aware : DenotesMoment "2026-02-26T15:00:00+05:30" ⟨day, afternoon, some ahead⟩ :=
    ⟨by decide +kernel, by decide +kernel⟩
  have moments : createdAt.column.kind = .moment := rfl
  obtain ⟨-, -, sameZone⟩ := selectAlike_iff_zone moments zulu naive
  obtain ⟨-, -, otherZone⟩ := selectAlike_iff_zone moments zulu aware
  exact ⟨(sameZone (by decide +kernel)).mpr rfl,
    mt (otherZone (by decide +kernel)).mp (by decide)⟩

/-- The post of half past nine is found by the one text of its instant and not by the other. -/
theorem selects_apart_posts :
    let createdAt : Field := Sample.field Sample.post.table "created_at" .moment
    let query : Query := ⟨Sample.post, [], []⟩
    let found (text : String) : List Row := (select Sample.database query).filter fun row =>
      Selects Sample.database (.ofRow "posts" row) createdAt .equals (.str text)
    ((readMoment? "2026-02-26T09:30:00Z").map Moment.instant =
        (readMoment? "2026-02-26T15:00:00+05:30").map Moment.instant) ∧
      (found "2026-02-26T09:30:00Z").map (· "id") = [.int 2] ∧
      (found "2026-02-26T15:00:00+05:30").map (· "id") = [] := by
  decide +kernel

end Filter

end GridQuery
