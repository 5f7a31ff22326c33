import GridQuery.Json.Reader
import GridQuery.Proofs.Outcome
import Mathlib.Algebra.Order.Ring.Nat

/-!
Which values have no text.  The text of a value takes the forms of the values in
it, so it is missing exactly if an integer of too many digits is somewhere in
the value.  A value read from JSON has a text, since such an integer is not read
either.
-/

namespace GridQuery

namespace Value

/-- A value with an integer of too many digits somewhere in it. -/
inductive HoldsHuge : Value → Prop where
  | int {n : Int} : Integer.digitLimit < (Nat.toDigits 10 n.natAbs).length → HoldsHuge (.int n)
  | list {items : List Value} {item : Value} :
      item ∈ items → HoldsHuge item → HoldsHuge (.list items)
  | tuple {items : List Value} {item : Value} :
      item ∈ items → HoldsHuge item → HoldsHuge (.tuple items)
  | set {items : List Value} {item : Value} :
      item ∈ items → HoldsHuge item → HoldsHuge (.set items)
  | object {members : Members} {member : String × Value} :
      member ∈ members → HoldsHuge member.2 → HoldsHuge (.object members)

theorem literals?_eq_none_iff {items : List Value} :
    literals? items = none ↔ ∃ item ∈ items, literal? item = none := by
  induction items with
  | nil => simp [literals?]
  | cons item rest inductionHypothesis =>
      simp only [literals?, List.mem_cons, exists_eq_or_imp, ← inductionHypothesis]
      cases literal? item <;> cases literals? rest <;> simp

theorem memberLiterals?_eq_none_iff {members : Members} :
    memberLiterals? members = none ↔ ∃ member ∈ members, literal? member.2 = none := by
  induction members with
  | nil => simp [memberLiterals?]
  | cons member rest inductionHypothesis =>
      simp only [memberLiterals?, List.mem_cons, exists_eq_or_imp, ← inductionHypothesis]
      cases literal? member.2 <;> cases memberLiterals? rest <;> simp

theorem HoldsHuge.literal?_eq_none {value : Value} (huge : value.HoldsHuge) :
    value.literal? = none := by
  induction huge with
  | int many => simp [literal?, Integer.text?, many]
  | list member _ inductionHypothesis =>
      simp [literal?, literals?_eq_none_iff.mpr ⟨_, member, inductionHypothesis⟩]
  | tuple member _ inductionHypothesis =>
      simp [literal?, literals?_eq_none_iff.mpr ⟨_, member, inductionHypothesis⟩]
  | set member _ inductionHypothesis =>
      simp [literal?, literals?_eq_none_iff.mpr ⟨_, member, inductionHypothesis⟩]
  | object member _ inductionHypothesis =>
      simp [literal?, memberLiterals?_eq_none_iff.mpr ⟨_, member, inductionHypothesis⟩]

theorem HoldsHuge.of_literal?_eq_none {value : Value} (unwritten : value.literal? = none) :
    value.HoldsHuge := by
  cases value with
  | int n =>
      rw [literal?, Integer.text?] at unwritten
      split at unwritten
      · next many => exact .int many
      · simp at unwritten
  | list items =>
      obtain ⟨item, member, missing⟩ :=
        literals?_eq_none_iff.mp (by simpa [literal?] using unwritten)
      exact .list member (of_literal?_eq_none missing)
  | tuple items =>
      obtain ⟨item, member, missing⟩ :=
        literals?_eq_none_iff.mp (by simpa [literal?] using unwritten)
      exact .tuple member (of_literal?_eq_none missing)
  | set items =>
      obtain ⟨item, member, missing⟩ :=
        literals?_eq_none_iff.mp (by simpa [literal?] using unwritten)
      exact .set member (of_literal?_eq_none missing)
  | object members =>
      obtain ⟨⟨name, held⟩, member, missing⟩ :=
        memberLiterals?_eq_none_iff.mp (by simpa [literal?] using unwritten)
      exact .object member (of_literal?_eq_none missing)
  | _ => simp [literal?] at unwritten
termination_by sizeOf value
decreasing_by
  all_goals
    subst value
    have smaller := List.sizeOf_lt_of_mem member
    simp_all only [list.sizeOf_spec, tuple.sizeOf_spec, set.sizeOf_spec, object.sizeOf_spec,
      Prod.mk.sizeOf_spec]
    omega

theorem text?_eq_none_iff {value : Value} : value.text? = none ↔ value.HoldsHuge := by
  have unwritten : value.text? = none ↔ value.literal? = none := by
    cases value <;> simp [text?, literal?]
  rw [unwritten]
  exact ⟨.of_literal?_eq_none, HoldsHuge.literal?_eq_none⟩

/-- A value that holds a huge integer is not empty, so it counts as given. -/
theorem HoldsHuge.isTruthy {value : Value} (huge : value.HoldsHuge) : value.isTruthy = true := by
  cases huge with
  | @int n many =>
      rw [Value.isTruthy, bne_iff_ne]
      rintro rfl
      exact absurd many (by decide)
  | list member | tuple member | set member | object member =>
      simp [Value.isTruthy, List.ne_nil_of_mem member]

theorem HoldsHuge.of_member {data : Members} {name : String}
    (huge : (data.value name).HoldsHuge) : HoldsHuge (.object data) := by
  cases found : data.value? name with
  | none =>
      rw [Members.value, found, Option.getD_none] at huge
      cases huge
  | some value =>
      obtain ⟨before, after, rfl, -⟩ := List.lookup_eq_some_iff.mp found
      have member : (name, value) ∈ before ++ (name, value) :: after := by simp
      rw [Members.value, found] at huge
      exact .object member huge

end Value

theorem Integer.lt_length_toDigits {count : Nat} (positive : 0 < count) :
    count < (Nat.toDigits 10 (tenTo count : Int).natAbs).length := by
  apply Nat.lt_of_not_le
  rw [Int.natAbs_natCast, Nat.length_toDigits_le_iff (by omega) positive]
  exact Nat.lt_irrefl (10 ^ count)

theorem Numeral.valueOf_lt {digits : List Char} (digital : ∀ c ∈ digits, c.isDigit = true) :
    valueOf digits < 10 ^ digits.length := by
  induction digits with
  | nil => simp [valueOf]
  | cons c rest inductionHypothesis =>
      obtain ⟨digit, restDigital⟩ := List.forall_mem_cons.mp digital
      have small : c.toNat - '0'.toNat ≤ 9 := by
        have upper := (Text.toNat_of_isDigit digit).2
        have zero : '0'.toNat = 48 := rfl
        omega
      have opened : valueOf (c :: rest) =
          10 ^ rest.length * (c.toNat - '0'.toNat) + valueOf rest := by
        have led : valueOf (c :: rest) =
            Nat.ofDigitChars 10 rest (10 * 0 + (c.toNat - '0'.toNat)) := Nat.ofDigitChars_cons
        rw [led, Nat.ofDigitChars_eq_ofDigitChars_zero, Nat.mul_zero, Nat.zero_add]
        rfl
      have product := Nat.mul_le_mul_left (10 ^ rest.length) small
      have later := inductionHypothesis restDigital
      rw [opened, List.length_cons, Nat.pow_succ]
      omega

namespace Members

theorem exists_of_mem_put {name : String} {value : Value} {members : Members}
    {member : String × Value} (placed : member ∈ put name value members) :
    member.2 = value ∨ ∃ old ∈ members, old.2 = member.2 := by
  induction members with
  | nil => simp_all [put]
  | cons first rest inductionHypothesis =>
      rw [put] at placed
      split at placed
      · rcases List.mem_cons.mp placed with rfl | inRest
        · exact .inl rfl
        · exact .inr ⟨member, List.mem_cons_of_mem first inRest, rfl⟩
      · rcases List.mem_cons.mp placed with rfl | inRest
        · exact .inr ⟨_, List.mem_cons_self, rfl⟩
        · rcases inductionHypothesis inRest with written | ⟨old, isOld, same⟩
          · exact .inl written
          · exact .inr ⟨old, List.mem_cons_of_mem first isOld, same⟩

theorem exists_of_mem_foldl_put {pairs : List (String × Value)} {done : Members}
    {member : String × Value}
    (placed : member ∈ pairs.foldl (fun members pair => put pair.1 pair.2 members) done) :
    (∃ old ∈ done, old.2 = member.2) ∨ ∃ pair ∈ pairs, pair.2 = member.2 := by
  induction pairs generalizing done with
  | nil => exact .inl ⟨member, placed, rfl⟩
  | cons pair rest inductionHypothesis =>
      rcases inductionHypothesis placed with ⟨old, isOld, same⟩ | ⟨later, inRest, same⟩
      · rcases exists_of_mem_put isOld with written | ⟨older, isOlder, sameOld⟩
        · exact .inr ⟨pair, List.mem_cons_self, written.symm.trans same⟩
        · exact .inl ⟨older, isOlder, sameOld.trans same⟩
      · exact .inr ⟨later, List.mem_cons_of_mem pair inRest, same⟩

theorem exists_of_mem_ofPairs {pairs : List (String × Value)} {member : String × Value}
    (placed : member ∈ ofPairs pairs) : ∃ pair ∈ pairs, pair.2 = member.2 := by
  rcases exists_of_mem_foldl_put placed with ⟨old, isOld, -⟩ | found
  · simp at isOld
  · exact found

end Members

namespace Json

open Numeral

variable {cursor after : Cursor} {value : Value}

theorem wholeAt_isDigit {cs : List Char} {c : Char} (member : c ∈ wholeAt cs) :
    c.isDigit = true := by
  unfold wholeAt at member
  split at member
  · obtain rfl : c = '0' := by simpa using member
    rfl
  · exact List.all_eq_true.mp (List.all_takeWhile) c member

theorem shape_of_readNumber? (read : readNumber? cursor = some (.ok (value, after))) :
    (∃ negative whole, value = .int (Double.withSign negative (valueOf whole)) ∧ whole ≠ [] ∧
      (∀ c ∈ whole, c.isDigit = true) ∧ whole.length ≤ Integer.digitLimit) ∨
    ∃ x, value = .float x := by
  unfold readNumber? at read
  extract_lets negative unsigned whole fraction fractionSize exponent size form at read
  have digital : ∀ c ∈ whole, c.isDigit = true := fun c => wholeAt_isDigit
  split at read
  · simp at read
  next nonempty =>
    split at read
    · split at read
      · simp at read
      next short =>
        obtain ⟨rfl, -⟩ : _ = value ∧ _ := by simpa using read
        exact .inl ⟨negative, whole, rfl, by simpa using nonempty, digital, by omega⟩
    · obtain ⟨rfl, -⟩ : _ = value ∧ _ := by simpa using read
      exact .inr ⟨_, rfl⟩

/-- As many digits as are read suffice to write the number again. -/
theorem not_holdsHuge_of_readNumber? (read : readNumber? cursor = some (.ok (value, after))) :
    ¬ value.HoldsHuge := by
  rcases shape_of_readNumber? read with ⟨negative, whole, rfl, nonempty, digital, short⟩ | ⟨x, rfl⟩
  · rintro ⟨many⟩
    have magnitude : (Double.withSign negative (valueOf whole)).natAbs = valueOf whole := by
      cases negative <;> simp [Double.withSign]
    have bound := (Nat.length_toDigits_le_iff (by omega) (List.length_pos_iff.mpr nonempty)).mpr
      (valueOf_lt digital)
    rw [magnitude] at many
    omega
  · rintro ⟨⟩

theorem not_holdsHuge_of_readAtom (read : readAtom cursor = .ok (value, after)) :
    ¬ value.HoldsHuge := by
  unfold readAtom at read
  split at read
  · next reading same => exact not_holdsHuge_of_readNumber? (same.trans (congrArg some read))
  · split at read
    · next found same =>
        obtain ⟨word, isWord, written⟩ := Option.map_eq_some_iff.mp same
        have known : ∀ word ∈ words, ¬ word.2.HoldsHuge := by
          simp only [words, List.forall_mem_cons, List.not_mem_nil, IsEmpty.forall_iff,
            implies_true, and_true]
          refine ⟨?_, ?_, ?_, ?_, ?_, ?_⟩ <;> rintro ⟨⟩
        obtain rfl : found = (value, after) := by simpa using read
        obtain rfl : word.2 = value := congrArg Prod.fst written
        exact known word (List.mem_of_find?_eq_some isWord)
    · simp [Cursor.fail] at read

section Readers

variable {fuel : Nat}
  (ofValue : ∀ {cursor value after}, readValue fuel cursor = .ok (value, after) →
    ¬ value.HoldsHuge)
  (ofItems : ∀ {cursor items after}, readItems fuel cursor = .ok (items, after) →
    ∀ item ∈ items, ¬ item.HoldsHuge)
  (ofMembers : ∀ {cursor members after}, readMembers fuel cursor = .ok (members, after) →
    ∀ member ∈ members, ¬ member.2.HoldsHuge)

include ofItems ofMembers in
theorem not_holdsHuge_of_readValue_succ (read : readValue (fuel + 1) cursor = .ok (value, after)) :
    ¬ value.HoldsHuge := by
  rw [readValue] at read
  split at read
  · obtain ⟨_, -, same⟩ := bind_eq_ok_iff.mp read
    obtain ⟨rfl, -⟩ : _ = value ∧ _ := by simpa using same
    rintro ⟨⟩
  · dsimp only at read
    split at read
    · obtain ⟨rfl, -⟩ : _ = value ∧ _ := by simpa using read
      intro huge
      cases huge with
      | list member _ => simp at member
    · obtain ⟨⟨items, _⟩, readItems, same⟩ := bind_eq_ok_iff.mp read
      obtain ⟨rfl, -⟩ : Value.list items = value ∧ _ := by simpa using same
      intro huge
      cases huge with
      | list member huge => exact ofItems readItems _ member huge
  · dsimp only at read
    split at read
    · obtain ⟨rfl, -⟩ : _ = value ∧ _ := by simpa using read
      intro huge
      cases huge with
      | object member _ => simp at member
    · obtain ⟨⟨members, _⟩, readMembers, same⟩ := bind_eq_ok_iff.mp read
      obtain ⟨rfl, -⟩ : Value.object (Members.ofPairs members) = value ∧ _ := by
        simpa using same
      intro huge
      cases huge with
      | object placed huge =>
          obtain ⟨pair, isPair, same⟩ := Members.exists_of_mem_ofPairs placed
          exact ofMembers readMembers pair isPair (same ▸ huge)
  · exact not_holdsHuge_of_readAtom read

include ofValue ofItems in
theorem not_holdsHuge_of_readItems_succ {items : List Value}
    (read : readItems (fuel + 1) cursor = .ok (items, after)) :
    ∀ item ∈ items, ¬ item.HoldsHuge := by
  rw [readItems] at read
  obtain ⟨⟨first, _⟩, readFirst, later⟩ := bind_eq_ok_iff.mp read
  have firstSmall := ofValue readFirst
  dsimp only at later
  split at later
  · obtain ⟨rfl, -⟩ : [first] = items ∧ _ := by simpa using later
    simpa using firstSmall
  · obtain ⟨⟨others, _⟩, readOthers, same⟩ := bind_eq_ok_iff.mp later
    obtain ⟨rfl, -⟩ : first :: others = items ∧ _ := by simpa using same
    exact List.forall_mem_cons.mpr ⟨firstSmall, ofItems readOthers⟩
  · simp [Cursor.fail] at later

include ofValue ofMembers in
theorem not_holdsHuge_of_readMembers_succ {members : List (String × Value)}
    (read : readMembers (fuel + 1) cursor = .ok (members, after)) :
    ∀ member ∈ members, ¬ member.2.HoldsHuge := by
  rw [readMembers] at read
  obtain ⟨⟨name, _⟩, -, valued⟩ := bind_eq_ok_iff.mp read
  obtain ⟨⟨first, _⟩, readFirst, later⟩ := bind_eq_ok_iff.mp valued
  have firstSmall := ofValue readFirst
  dsimp only at later
  split at later
  · obtain ⟨rfl, -⟩ : [(name, first)] = members ∧ _ := by simpa using later
    simpa using firstSmall
  · obtain ⟨⟨others, _⟩, readOthers, same⟩ := bind_eq_ok_iff.mp later
    obtain ⟨rfl, -⟩ : (name, first) :: others = members ∧ _ := by simpa using same
    exact List.forall_mem_cons.mpr ⟨firstSmall, ofMembers readOthers⟩
  · simp [Cursor.fail] at later

end Readers

-- A value is read with less fuel than its list or object, so one induction carries all three.
theorem not_holdsHuge_of_read (fuel : Nat) :
    (∀ {cursor value after}, readValue fuel cursor = .ok (value, after) → ¬ value.HoldsHuge) ∧
    (∀ {cursor items after}, readItems fuel cursor = .ok (items, after) →
      ∀ item ∈ items, ¬ item.HoldsHuge) ∧
    ∀ {cursor members after}, readMembers fuel cursor = .ok (members, after) →
      ∀ member ∈ members, ¬ member.2.HoldsHuge := by
  induction fuel with
  | zero => simp [readValue, readItems, readMembers, Cursor.fail]
  | succ fuel inductionHypothesis =>
      obtain ⟨ofValue, ofItems, ofMembers⟩ := inductionHypothesis
      exact ⟨not_holdsHuge_of_readValue_succ ofItems ofMembers,
        not_holdsHuge_of_readItems_succ ofValue ofItems,
        not_holdsHuge_of_readMembers_succ ofValue ofMembers⟩

theorem not_holdsHuge_of_ofChars {cs : List Char} (read : ofChars cs = .ok value) :
    ¬ value.HoldsHuge := by
  unfold ofChars at read
  cases all : readAll cs with
  | error stop => simp [all, mapError_error] at read
  | ok whole =>
      obtain rfl : whole = value := by simpa [all, mapError_ok] using read
      unfold readAll at all
      split at all
      · simp at all
      · obtain ⟨⟨first, _⟩, readFirst, rest⟩ := bind_eq_ok_iff.mp all
        dsimp only at rest
        split at rest
        · obtain rfl : first = whole := by simpa using rest
          exact (not_holdsHuge_of_read _).1 readFirst
        · simp [Cursor.fail] at rest

/-- A value that a text writes has no huge integer in it. -/
theorem not_holdsHuge_of_ofText {s : String} (read : ofText s = .ok value) : ¬ value.HoldsHuge :=
  not_holdsHuge_of_ofChars read

theorem not_holdsHuge_of_ofBytes {content : List UInt8} (read : ofBytes content = .ok value) :
    ¬ value.HoldsHuge := by
  unfold ofBytes at read
  split at read
  · simp at read
  · exact not_holdsHuge_of_ofChars read

end Json

end GridQuery
