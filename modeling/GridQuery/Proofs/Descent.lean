import GridQuery.Proofs.Chain
import Mathlib.Data.Nat.Pairing
import Mathlib.Logic.Equiv.List

/-!
A chain for every walk.  From a row of one generation a row of the next is made
that takes over the cells its keys ask for and is fresh in all other columns.
No row made so holds one value in two columns; hence no key of a row leads back
to the row itself, however long the walk and whichever tables it revisits.
-/

namespace GridQuery

open Store

theorem KeysBetween.swap {keys : List KeyPair} {near far : String}
    (between : KeysBetween keys near far) : KeysBetween (keys.map Prod.swap) far near where
  ne_nil := by simpa using between.ne_nil
  near_table := by
    intro pair member
    obtain ⟨original, inKeys, rfl⟩ := List.mem_map.mp member
    exact between.far_table original inKeys
  far_table := by
    intro pair member
    obtain ⟨original, inKeys, rfl⟩ := List.mem_map.mp member
    exact between.near_table original inKeys
  near_nodup := by simpa [Function.comp_def] using between.far_nodup
  far_nodup := by simpa [Function.comp_def] using between.near_nodup

namespace Row

def ofCode (code : String → Nat) : Row :=
  fun name => .int (code name)

theorem agree_ofCode_iff (pair : KeyPair) (near far : String → Nat) :
    pair.Agree (ofCode near) (ofCode far) ↔
      near pair.1.column.name = far pair.2.column.name := by
  simp only [KeyPair.Agree, ofCode, ne_eq, reduceCtorEq, not_false_eq_true, true_and,
    Cell.order_read_int_eq_iff, Int.natCast_inj]

def nameCode (name : String) : Nat :=
  Encodable.encode (name.toList.map Char.toNat)

theorem nameCode_injective : Function.Injective nameCode := by
  intro first second sameCode
  have sameNumbers := Encodable.encode_injective sameCode
  rw [List.map_inj_right fun _ _ => Char.toNat_inj.mp] at sameNumbers
  exact String.toList_inj.mp sameNumbers

/-- Numbers that no earlier generation and no other column has. -/
def freshCode (generation : Nat) (name : String) : Nat :=
  Nat.pair generation (nameCode name)

/-- The numbers that some keys take from a row, and fresh ones in all other columns. -/
def heirCode (keys : List KeyPair) (generation : Nat) (code : String → Nat) (name : String) : Nat :=
  match keys.find? (·.2.column.name == name) with
  | some pair => code pair.1.column.name
  | none => freshCode generation name

/-- Different columns have different numbers, none of which is newer than a generation. -/
structure Scattered (generation : Nat) (code : String → Nat) : Prop where
  injective : Function.Injective code
  bounded : ∀ name, (code name).unpair.1 ≤ generation

theorem freshCode_scattered (generation : Nat) : Scattered generation (freshCode generation) where
  injective := fun _ _ same => nameCode_injective (Nat.pair_eq_pair.mp same).2
  bounded := fun name => by simp [freshCode]

theorem heirCode_eq_or (keys : List KeyPair) (generation : Nat) (code : String → Nat)
    (name : String) :
    (∃ pair ∈ keys, pair.2.column.name = name ∧
        heirCode keys generation code name = code pair.1.column.name) ∨
      heirCode keys generation code name = freshCode generation name := by
  unfold heirCode
  cases found : keys.find? (·.2.column.name == name) with
  | none => exact .inr rfl
  | some pair =>
      have named : pair.2.column.name = name := by simpa using List.find?_some found
      exact .inl ⟨pair, List.mem_of_find?_eq_some found, named, rfl⟩

theorem agree_heirCode {keys : List KeyPair} {near far : String}
    (between : KeysBetween keys near far) {pair : KeyPair} (member : pair ∈ keys)
    (generation : Nat) (code : String → Nat) :
    pair.Agree (ofCode code) (ofCode (heirCode keys generation code)) := by
  rw [agree_ofCode_iff]
  unfold heirCode
  cases found : keys.find? (·.2.column.name == pair.2.column.name) with
  | none => simpa using List.find?_eq_none.mp found pair member
  | some other =>
      have sameName : other.2.column.name = pair.2.column.name := by
        simpa using List.find?_some found
      rw [List.inj_on_of_nodup_map between.far_nodup (List.mem_of_find?_eq_some found) member
        sameName]

theorem heirCode_scattered {keys : List KeyPair} {near far : String}
    (between : KeysBetween keys near far) {generation : Nat} {code : String → Nat}
    (scattered : Scattered generation code) :
    Scattered (generation + 1) (heirCode keys (generation + 1) code) where
  injective := by
    have oldIsNotFresh (taken name : String) :
        code taken ≠ freshCode (generation + 1) name := by
      intro same
      have tooNew := scattered.bounded taken
      rw [same, freshCode, Nat.unpair_pair] at tooNew
      omega
    intro first second same
    rcases heirCode_eq_or keys (generation + 1) code first with
      ⟨pair, inKeys, rfl, taken⟩ | fresh <;>
    rcases heirCode_eq_or keys (generation + 1) code second with
      ⟨other, otherInKeys, rfl, otherTaken⟩ | otherFresh
    · rw [taken, otherTaken] at same
      rw [List.inj_on_of_nodup_map between.near_nodup inKeys otherInKeys
        (scattered.injective same)]
    · rw [taken, otherFresh] at same
      exact absurd same (oldIsNotFresh _ _)
    · rw [fresh, otherTaken] at same
      exact absurd same.symm (oldIsNotFresh _ _)
    · rw [fresh, otherFresh] at same
      exact (freshCode_scattered _).injective same
  bounded := by
    intro name
    rcases heirCode_eq_or keys (generation + 1) code name with ⟨pair, -, -, taken⟩ | fresh
    · rw [taken]
      exact (scattered.bounded _).trans (Nat.le_succ generation)
    · rw [fresh]
      exact (freshCode_scattered _).bounded name

theorem Scattered.not_agree_self {generation : Nat} {code : String → Nat}
    (scattered : Scattered generation code) {pair : KeyPair}
    (differ : pair.1.column.name ≠ pair.2.column.name) :
    ¬ pair.Agree (ofCode code) (ofCode code) := by
  rw [agree_ofCode_iff]
  exact fun same => differ (scattered.injective same)

end Row

/-- The rows of a chain from a row over some relations, each with its table, each an heir of the
one before; the rows of association tables stand between those that they connect. -/
def descent (generation : Nat) (code : String → Nat) : List Linkage → List (String × Row)
  | [] => []
  | link :: later =>
      let child := Row.heirCode link.keys (generation + 1) code
      match link.association with
      | none => (link.target.table.name, .ofCode child) :: descent (generation + 1) child later
      | some association =>
          let next := Row.heirCode (association.keys.map Prod.swap) (generation + 2) child
          (association.table, .ofCode child) :: (link.target.table.name, .ofCode next) ::
            descent (generation + 2) next later

theorem descent_scattered {links : List Linkage} (follows : ∀ link ∈ links, link.FollowsKeys)
    {generation : Nat} {code : String → Nat} (scattered : Row.Scattered generation code)
    {entry : String × Row} (member : entry ∈ descent generation code links) :
    ∃ later other, Row.Scattered later other ∧ entry.2 = .ofCode other := by
  induction links generalizing generation code with
  | nil => simp [descent] at member
  | cons link links inductionHypothesis =>
      have followsRest : ∀ other ∈ links, other.FollowsKeys :=
        fun other inRest => follows other (by simp [inRest])
      cases follows link (by simp) with
      | direct alone keys differ =>
          have childScattered := Row.heirCode_scattered keys scattered
          simp only [descent, alone, List.mem_cons] at member
          rcases member with rfl | inRest
          · exact ⟨_, _, childScattered, rfl⟩
          · exact inductionHypothesis followsRest childScattered inRest
      | through associated keys targetKeys notParent notTarget =>
          have childScattered := Row.heirCode_scattered keys scattered
          have nextScattered := Row.heirCode_scattered targetKeys.swap childScattered
          simp only [descent, associated, List.mem_cons] at member
          rcases member with rfl | rfl | inRest
          · exact ⟨_, _, childScattered, rfl⟩
          · exact ⟨_, _, nextScattered, rfl⟩
          · exact inductionHypothesis followsRest nextScattered inRest

theorem chain_descent {database : Database} {links : List Linkage}
    (follows : ∀ link ∈ links, link.FollowsKeys) {generation : Nat} {code : String → Nat}
    (stored : ∀ entry ∈ descent generation code links, entry.2 ∈ database entry.1) :
    ∃ last, Chain database links (.ofCode code) (.ofCode last) := by
  induction links generalizing generation code with
  | nil => exact ⟨code, .stay _⟩
  | cons link links inductionHypothesis =>
      have followsRest : ∀ other ∈ links, other.FollowsKeys :=
        fun other inRest => follows other (by simp [inRest])
      cases follows link (by simp) with
      | direct alone keys differ =>
          simp only [descent, alone, List.forall_mem_cons] at stored
          obtain ⟨childStored, restStored⟩ := stored
          obtain ⟨last, chain⟩ := inductionHypothesis followsRest restStored
          refine ⟨last, .step childStored ?_ chain⟩
          simp only [Linkage.Links, alone]
          exact fun pair inKeys => Row.agree_heirCode keys inKeys _ _
      | through associated keys targetKeys notParent notTarget =>
          simp only [descent, associated, List.forall_mem_cons] at stored
          obtain ⟨childStored, nextStored, restStored⟩ := stored
          obtain ⟨last, chain⟩ := inductionHypothesis followsRest restStored
          refine ⟨last, .step nextStored ?_ chain⟩
          simp only [Linkage.Links, associated]
          refine ⟨_, childStored, fun pair inKeys => Row.agree_heirCode keys inKeys _ _, ?_⟩
          intro pair inKeys
          have swapped := Row.agree_heirCode targetKeys.swap
            (List.mem_map.mpr ⟨pair, inKeys, rfl⟩) (generation + 2)
            (Row.heirCode link.keys (generation + 1) code)
          rw [Row.agree_ofCode_iff] at swapped ⊢
          exact swapped.symm

end GridQuery
