import GridQuery.Proofs.IsoDay
import Mathlib.Data.List.TakeDrop

/-!
Numbers and identifiers read back from their texts.  The texts are ASCII and
hold no blank, comma or underscore, so what the readers do to a text before
they look at its digits leaves these alone.
-/

namespace GridQuery

open Text

namespace Numeral

/-- The characters that the texts of integers and decimals are made of. -/
def IsFigure (c : Char) : Prop :=
  c.isDigit = true ∨ c ∈ ['-', '+', '.', 'E']

theorem not_isFigure_of {c : Char} (noDigit : c.isDigit = false)
    (noMark : c ∉ ['-', '+', '.', 'E']) : ¬ IsFigure c := by
  rintro (digit | mark)
  · simp [noDigit] at digit
  · exact noMark mark

theorem IsFigure.ne {c other : Char} (figure : IsFigure c) (noFigure : ¬ IsFigure other) :
    c ≠ other := by
  rintro rfl
  exact noFigure figure

theorem IsFigure.isBlank_eq {c : Char} (figure : IsFigure c) : isBlank c = false := by
  rcases figure with digit | mark
  · exact isBlank_of_isDigit digit
  · simp only [List.mem_cons, List.not_mem_nil, or_false] at mark
    rcases mark with rfl | rfl | rfl | rfl <;> rfl

theorem plainChar_eq_self {c : Char} (ascii : c.toNat < 128) : plainChar c = c := by
  rw [plainChar, if_pos ascii]

theorem IsFigure.plainChar_eq {c : Char} (figure : IsFigure c) : plainChar c = c := by
  apply plainChar_eq_self
  rcases figure with digit | mark
  · exact Nat.lt_of_le_of_lt (toNat_of_isDigit digit).2 (by decide)
  · simp only [List.mem_cons, List.not_mem_nil, or_false] at mark
    rcases mark with rfl | rfl | rfl | rfl <;> decide

theorem isSpace_of_not_isBlank {c : Char} (given : isBlank c = false) : isSpace c = false := by
  by_contra space
  simp only [Bool.not_eq_false, isSpace, Bool.or_eq_true, Bool.and_eq_true, decide_eq_true_eq,
    beq_iff_eq] at space
  rcases space with ⟨low, high⟩ | rfl
  · simp [isBlank, low, high] at given
  · simp [isBlank] at given

theorem plain_eq_self {cs : List Char} (ascii : ∀ c ∈ cs, plainChar c = c)
    (given : ∀ c ∈ cs, isBlank c = false) : plain cs = cs := by
  rw [plain, List.map_congr_left ascii, List.map_id']
  exact trimWhere_of_forall fun c member => isSpace_of_not_isBlank (given c member)

theorem takeSign_append (negative : Bool) {cs : List Char}
    (led : ∀ c ∈ cs.head?, c ≠ '-' ∧ c ≠ '+') :
    takeSign (Decimal.signText negative ++ cs) = (negative, cs) := by
  cases negative with
  | true => rfl
  | false =>
      unfold takeSign
      split
      next same => exact absurd rfl (led '-' (by simp_all [Decimal.signText])).1
      next same => exact absurd rfl (led '+' (by simp_all [Decimal.signText])).2
      next => rfl

theorem not_isSign_of_isDigit {c : Char} (digit : c.isDigit = true) : c ≠ '-' ∧ c ≠ '+' :=
  ⟨ne_of_isDigit digit (by decide), ne_of_isDigit digit (by decide)⟩

/-- What a value becomes when digits of a base are written behind it. -/
def valueFrom (base value : Nat) (digits : List Char) : Nat :=
  digits.foldl (fun value c => base * value + (digitOf? base c).getD 0) value

theorem scan_eq_some {base : Nat} {digits : List Char}
    (digital : ∀ c ∈ digits, (digitOf? base c).isSome = true) (value count : Nat) :
    scan base value count false digits =
      some ⟨valueFrom base value digits, count + digits.length, []⟩ := by
  induction digits generalizing value count with
  | nil => simp [scan, valueFrom]
  | cons c rest inductionHypothesis =>
      obtain ⟨first, others⟩ := List.forall_mem_cons.mp digital
      obtain ⟨digit, reads⟩ := Option.isSome_iff_exists.mp first
      have noMark : c ≠ '_' := by
        rintro rfl
        simp [digitOf?, asciiDigit?] at reads
      rw [scan, if_neg noMark, reads]
      simp only [inductionHypothesis others, valueFrom, List.foldl_cons, reads, Option.getD_some,
        List.length_cons, Option.some.injEq, Run.mk.injEq, and_true, true_and]
      omega

theorem digitOf?_of_isDigit {c : Char} (digit : c.isDigit = true) :
    digitOf? 10 c = some (c.toNat - '0'.toNat) := by
  obtain ⟨low, high⟩ := toNat_of_isDigit digit
  have range : '0' ≤ c ∧ c ≤ '9' := by
    simpa [Char.isDigit, Char.le_def] using digit
  rw [digitOf?, asciiDigit?, if_pos range]
  have below : c.toNat - '0'.toNat < 10 := Nat.sub_lt_right_of_lt_add low (Nat.lt_succ_of_le high)
  exact if_pos (by simpa using below)

theorem valueFrom_ten {digits : List Char} (digital : ∀ c ∈ digits, c.isDigit = true) :
    valueFrom 10 0 digits = valueOf digits := by
  unfold valueFrom valueOf
  apply List.foldl_ext
  intro value c member
  rw [digitOf?_of_isDigit (digital c member), Option.getD_some]

theorem isDigit_toDigits {n : Nat} {c : Char} (member : c ∈ Nat.toDigits 10 n) :
    c.isDigit = true :=
  Nat.isDigit_of_mem_toDigits (by decide) (by decide) member

theorem valueOf_toDigits (n : Nat) : valueOf (Nat.toDigits 10 n) = n :=
  Nat.ofDigitChars_ten_toDigits

theorem valueOf_zeros_append (count : Nat) (digits : List Char) :
    valueOf (List.replicate count '0' ++ digits) = valueOf digits := by
  have zeros : (List.replicate count '0').foldl
      (fun value c => 10 * value + (c.toNat - '0'.toNat)) 0 = 0 := by
    induction count with
    | zero => rfl
    | succ count inductionHypothesis => simpa [List.replicate_succ] using inductionHypothesis
  rw [valueOf, List.foldl_append, zeros, valueOf]

theorem takeDigits_append {digits rest : List Char} (digital : ∀ c ∈ digits, c.isDigit = true)
    (ended : ∀ c ∈ rest.head?, c.isDigit = false) :
    takeDigits (digits ++ rest) = (digits, rest) := by
  have stopped : rest.takeWhile Char.isDigit = [] ∧ rest.dropWhile Char.isDigit = rest := by
    cases rest with
    | nil => exact ⟨rfl, rfl⟩
    | cons c rest => simp [ended c rfl]
  rw [takeDigits, List.span_eq_takeWhile_dropWhile, List.takeWhile_append_of_pos digital,
    List.dropWhile_append_of_pos digital, stopped.1, stopped.2, List.append_nil]

end Numeral

theorem Double.withSign_natAbs (n : Int) : Double.withSign (decide (n < 0)) n.natAbs = n := by
  by_cases negative : n < 0
  · simp only [withSign, negative, decide_true, if_true]
    omega
  · simp only [withSign, negative, decide_false, Bool.false_eq_true, if_false]
    omega

namespace Integer

open Numeral

theorem readUnsigned_eq_ok {base : Nat} {limit : Option Nat} {digits : List Char}
    (digital : ∀ c ∈ digits, (digitOf? base c).isSome = true) (nonempty : digits ≠ [])
    (within : limit.any (· < digits.length) = false) :
    readUnsigned base limit digits = .ok (valueFrom base 0 digits) := by
  have led : ∀ rest, digits ≠ '_' :: rest := by
    rintro rest rfl
    simpa [digitOf?, asciiDigit?] using digital '_' (by simp)
  have counted : digits.length ≠ 0 := by simpa using nonempty
  unfold readUnsigned
  split
  next same => exact absurd rfl (led _)
  next => simp [scan_eq_some digital, within, counted]

theorem text_eq (n : Int) :
    text n = String.ofList (Decimal.signText (n < 0) ++ Nat.toDigits 10 n.natAbs) := by
  by_cases negative : n < 0 <;> simp [text, Decimal.signText, negative]

theorem isFigure_text {n : Int} {c : Char} (member : c ∈ (text n).toList) : IsFigure c := by
  rw [text_eq, String.toList_ofList, List.mem_append] at member
  rcases member with sign | digit
  · have mark : c = '-' := by
      by_cases negative : n < 0 <;> simp_all [Decimal.signText]
    exact .inr (by simp [mark])
  · exact .inl (isDigit_toDigits digit)

theorem ofText?_text {n : Int} (short : (Nat.toDigits 10 n.natAbs).length ≤ digitLimit) :
    ofText? (text n) = some n := by
  have digital : ∀ c ∈ Nat.toDigits 10 n.natAbs, c.isDigit = true := fun c => isDigit_toDigits
  have untouched : plain (text n).toList = (text n).toList :=
    plain_eq_self (fun c member => (isFigure_text member).plainChar_eq)
      fun c member => (isFigure_text member).isBlank_eq
  have signed : takeSign (text n).toList = (decide (n < 0), Nat.toDigits 10 n.natAbs) := by
    rw [text_eq, String.toList_ofList]
    exact takeSign_append _ fun c first =>
      not_isSign_of_isDigit (digital c (List.mem_of_mem_head? first))
  have digits : readUnsigned 10 (some digitLimit) (Nat.toDigits 10 n.natAbs) = .ok n.natAbs := by
    rw [readUnsigned_eq_ok (fun c member => by simp [digitOf?_of_isDigit (digital c member)])
      Nat.toDigits_ne_nil (by simpa using short), valueFrom_ten digital, valueOf_toDigits]
  rw [ofText?, read, untouched, signed]
  simp [digits, Double.withSign_natAbs, Except.toOption]

end Integer

namespace DecimalForm

open Numeral

/-- The exponent behind the digits of a decimal: none, or a mark with a sign and digits. -/
inductive WritesExponent : List Char → Int → Prop
  | none : WritesExponent [] 0
  | marked {digits : List Char} (negative : Bool) (nonempty : digits ≠ [])
      (digital : ∀ c ∈ digits, c.isDigit = true) :
      WritesExponent ('E' :: (if negative then '-' else '+') :: digits)
        (Double.withSign negative (valueOf digits))

def pointed : List Char → List Char
  | [] => []
  | digits => '.' :: digits

theorem pointed_of_ne_nil {digits : List Char} (nonempty : digits ≠ []) :
    pointed digits = '.' :: digits := by
  cases digits with
  | nil => exact absurd rfl nonempty
  | cons => rfl

/-- The texts of an unsigned decimal. -/
inductive Writes : List Char → DecimalForm → Prop
  | intro {whole fraction tail : List Char} {exponent : Int} (negative : Bool)
      (nonempty : whole ≠ []) (wholeDigits : ∀ c ∈ whole, c.isDigit = true)
      (fractionDigits : ∀ c ∈ fraction, c.isDigit = true)
      (writesExponent : WritesExponent tail exponent) :
      Writes (whole ++ pointed fraction ++ tail) ⟨negative, whole, fraction, exponent⟩

theorem WritesExponent.exponent?_eq {cs : List Char} {exponent : Int}
    (writes : WritesExponent cs exponent) : exponent? cs = some exponent := by
  cases writes with
  | none => rfl
  | @marked digits negative nonempty digital =>
      have whole : digits.all Char.isDigit = true := List.all_eq_true.mpr digital
      cases negative <;> simp [exponent?, takeSign, nonempty, whole]

theorem WritesExponent.head {cs : List Char} {exponent : Int}
    (writes : WritesExponent cs exponent) : ∀ c ∈ cs.head?, c = 'E' := by
  cases writes <;> simp

namespace Writes

variable {cs : List Char} {form : DecimalForm}

theorem ofUnsigned?_eq (writes : Writes cs form) : ofUnsigned? form.negative cs = some form := by
  obtain ⟨negative, nonempty, wholeDigits, fractionDigits, writesExponent⟩ := writes
  rename_i whole fraction tail exponent
  have tailEnds : ∀ c ∈ tail.head?, c.isDigit = false := by
    intro c first
    rw [writesExponent.head c first]
    decide
  cases fraction with
  | nil =>
      have front : takeDigits (whole ++ tail) = (whole, tail) :=
        takeDigits_append wholeDigits tailEnds
      have read := writesExponent.exponent?_eq
      rw [ofUnsigned?, pointed, List.append_nil, front]
      cases writesExponent <;> simp_all
  | cons first fraction =>
      have front : takeDigits (whole ++ '.' :: first :: (fraction ++ tail)) =
          (whole, '.' :: first :: (fraction ++ tail)) :=
        takeDigits_append wholeDigits (by simp [Char.isDigit])
      have behind : takeDigits (first :: (fraction ++ tail)) = (first :: fraction, tail) :=
        takeDigits_append fractionDigits tailEnds
      simp [ofUnsigned?, pointed, front, behind, writesExponent.exponent?_eq]

theorem isFigure (writes : Writes cs form) {c : Char} (member : c ∈ cs) : IsFigure c := by
  obtain ⟨negative, nonempty, wholeDigits, fractionDigits, writesExponent⟩ := writes
  rename_i whole fraction tail exponent
  simp only [List.mem_append] at member
  rcases member with (inWhole | inFraction) | inTail
  · exact .inl (wholeDigits c inWhole)
  · cases fraction with
    | nil => simp [pointed] at inFraction
    | cons first fraction =>
        rcases List.mem_cons.mp inFraction with rfl | digit
        · exact .inr (by decide)
        · exact .inl (fractionDigits c digit)
  · cases writesExponent with
    | none => simp at inTail
    | marked negative nonempty digital =>
        simp only [List.mem_cons] at inTail
        rcases inTail with rfl | rfl | digit
        · exact .inr (by decide)
        · cases negative <;> exact .inr (by decide)
        · exact .inl (digital c digit)

theorem head (writes : Writes cs form) : ∃ c rest, cs = c :: rest ∧ c.isDigit = true := by
  obtain ⟨negative, nonempty, wholeDigits, fractionDigits, writesExponent⟩ := writes
  obtain ⟨c, rest, rfl⟩ := List.exists_cons_of_ne_nil nonempty
  exact ⟨c, _, rfl, wholeDigits c (by simp)⟩

end Writes

end DecimalForm

namespace Decimal

open Numeral DecimalForm

/-- A text has a form if its parts are digits of the coefficient and its exponent fits them. -/
theorem exists_form {cs whole fraction tail : List Char} {coefficient : Nat} {exponent shown : Int}
    (negative : Bool) (parts : cs = whole ++ pointed fraction ++ tail) (nonempty : whole ≠ [])
    (digital : ∀ c ∈ whole ++ fraction, c.isDigit = true)
    (writesExponent : WritesExponent tail shown)
    (value : valueOf (whole ++ fraction) = coefficient)
    (scale : shown - fraction.length = exponent) :
    ∃ form : DecimalForm, form.Writes cs ∧
      form.negative = negative ∧ form.coefficient = coefficient ∧ form.scale = exponent := by
  refine ⟨⟨negative, whole, fraction, shown⟩, ?_, rfl, value, scale⟩
  rw [parts]
  exact .intro negative nonempty (fun c member => digital c (List.mem_append_left _ member))
    (fun c member => digital c (List.mem_append_right _ member)) writesExponent

section Shapes

variable {digits : List Char} {coefficient : Nat} (negative : Bool)
  (digital : ∀ c ∈ digits, c.isDigit = true) (value : valueOf digits = coefficient)

include digital value

theorem exists_writes_places {places : Nat} (some : places ≠ 0)
    (long : places + 1 ≤ digits.length) :
    ∃ form : DecimalForm,
      form.Writes (digits.take (digits.length - places) ++
        '.' :: digits.drop (digits.length - places)) ∧
      form.negative = negative ∧ form.coefficient = coefficient ∧ form.scale = -places := by
  have behind : digits.drop (digits.length - places) ≠ [] := by
    rw [ne_eq, List.drop_eq_nil_iff]
    omega
  have before : digits.take (digits.length - places) ≠ [] := by
    rw [← List.length_pos_iff, List.length_take]
    omega
  have parts : digits.take (digits.length - places) ++ '.' :: digits.drop (digits.length - places) =
      digits.take (digits.length - places) ++
        pointed (digits.drop (digits.length - places)) ++ [] := by
    rw [pointed_of_ne_nil behind, List.append_nil]
  refine exists_form negative parts before (by rwa [List.take_append_drop]) .none
    (by rwa [List.take_append_drop]) ?_
  rw [List.length_drop]
  omega

theorem exists_writes_leading (nonempty : digits ≠ []) (leading : Int) :
    ∃ form : DecimalForm,
      form.Writes (digits.take 1 ++ (if digits.length = 1 then [] else '.' :: digits.drop 1) ++
        ['E', if leading < 0 then '-' else '+'] ++ Nat.toDigits 10 leading.natAbs) ∧
      form.negative = negative ∧ form.coefficient = coefficient ∧
        form.scale = leading - (digits.length - 1) := by
  have writesExponent := WritesExponent.marked (decide (leading < 0)) Nat.toDigits_ne_nil
    fun c (member : c ∈ Nat.toDigits 10 leading.natAbs) => isDigit_toDigits member
  rw [valueOf_toDigits, Double.withSign_natAbs] at writesExponent
  have parts : digits.take 1 ++ (if digits.length = 1 then [] else '.' :: digits.drop 1) ++
        ['E', if leading < 0 then '-' else '+'] ++ Nat.toDigits 10 leading.natAbs =
      digits.take 1 ++ pointed (digits.drop 1) ++
        'E' :: (if decide (leading < 0) then '-' else '+') :: Nat.toDigits 10 leading.natAbs := by
    rcases digits with _ | ⟨first, _ | _⟩ <;> simp_all [pointed]
  have counted := List.length_pos_iff.mpr nonempty
  refine exists_form negative parts ?_ (by rwa [List.take_append_drop]) writesExponent
    (by rwa [List.take_append_drop]) ?_
  · rw [← List.length_pos_iff, List.length_take]
    omega
  · rw [List.length_drop]
    omega

end Shapes

theorem exists_writes (negative : Bool) (coefficient : Nat) (exponent : Int) :
    ∃ form : DecimalForm, form.Writes (magnitudeText coefficient exponent) ∧
      form.negative = negative ∧ form.coefficient = coefficient ∧ form.scale = exponent := by
  have digital : ∀ c ∈ Nat.toDigits 10 coefficient, c.isDigit = true := fun c => isDigit_toDigits
  have counted : 0 < (Nat.toDigits 10 coefficient).length := Nat.length_toDigits_pos
  have value := valueOf_toDigits coefficient
  simp only [magnitudeText]
  split
  next positional =>
    split
    next whole =>
      have parts : Nat.toDigits 10 coefficient =
          Nat.toDigits 10 coefficient ++ pointed [] ++ [] := by simp [pointed]
      refine exists_form negative parts Nat.toDigits_ne_nil (by simpa using digital) .none
        (by simpa using value) ?_
      rw [List.length_nil]
      omega
    next broken =>
      have allDigits : ∀ c ∈ List.replicate (exponent.natAbs + 1 -
          (Nat.toDigits 10 coefficient).length) '0' ++ Nat.toDigits 10 coefficient,
          c.isDigit = true := by
        intro c member
        rcases List.mem_append.mp member with zero | digit
        · rw [List.eq_of_mem_replicate zero]
          decide
        · exact digital c digit
      obtain ⟨form, writes, sign, sameValue, scale⟩ := exists_writes_places negative allDigits
        (by rw [valueOf_zeros_append, value]) broken (by simp; omega)
      exact ⟨form, writes, sign, sameValue, by omega⟩
  next scientific =>
    obtain ⟨form, writes, sign, sameValue, scale⟩ := exists_writes_leading negative digital value
      Nat.toDigits_ne_nil (lead coefficient exponent)
    refine ⟨form, writes, sign, sameValue, ?_⟩
    rw [scale, lead]
    omega

theorem isFigure_text {negative : Bool} {coefficient : Nat} {exponent : Int} {c : Char}
    (member : c ∈ (text (.finite negative coefficient exponent)).toList) : IsFigure c := by
  obtain ⟨form, writes, -⟩ := exists_writes negative coefficient exponent
  rw [text, String.toList_ofList, List.mem_append] at member
  rcases member with sign | inside
  · cases negative with
    | true => exact .inr (by simp_all [signText])
    | false => simp [signText] at sign
  · exact writes.isFigure inside

theorem text_ne_empty {negative : Bool} {coefficient : Nat} {exponent : Int} :
    text (.finite negative coefficient exponent) ≠ "" := by
  obtain ⟨form, writes, -⟩ := exists_writes negative coefficient exponent
  obtain ⟨c, rest, shape, -⟩ := writes.head
  simp [text, shape]

theorem dropWord?_of_isDigit {letter c : Char} {word rest : List Char} (digit : c.isDigit = true)
    (noDigit : letter.isDigit = false) : dropWord? (letter :: word) (c :: rest) = none := by
  have differ : (letter == c) = false := beq_eq_false_iff_ne.mpr (ne_of_isDigit digit noDigit).symm
  simp [dropWord?, List.isPrefixOf, differ]

theorem foldChar_of_isDigit {c : Char} (digit : c.isDigit = true) : foldChar c = c := by
  obtain ⟨-, high⟩ := toNat_of_isDigit digit
  rw [foldChar, if_neg]
  rintro ⟨upper, -⟩
  have : 65 ≤ c.toNat := upper
  omega

/-- A finite decimal is read back from its text, with its sign, coefficient and exponent. -/
theorem ofText?_text {negative : Bool} {coefficient : Nat} {exponent : Int}
    (inRange : isInRange coefficient exponent = true) :
    ofText? (text (.finite negative coefficient exponent)) =
      some (.finite negative coefficient exponent) := by
  obtain ⟨form, writes, sameSign, rfl, rfl⟩ := exists_writes negative coefficient exponent
  obtain ⟨c, rest, shape, digit⟩ := writes.head
  have figures : ∀ c ∈ (text (.finite negative form.coefficient form.scale)).toList, IsFigure c :=
    fun c => isFigure_text
  have untouched : ((stripChars (text (.finite negative form.coefficient form.scale)).toList).filter
      (· ≠ '_')).map plainChar = (text (.finite negative form.coefficient form.scale)).toList := by
    rw [stripChars, trimWhere_of_forall fun c member => (figures c member).isBlank_eq,
      List.filter_eq_self.mpr, List.map_congr_left fun c member => (figures c member).plainChar_eq,
      List.map_id']
    exact fun c member => by
      simpa using (figures c member).ne (not_isFigure_of (by decide) (by decide))
  have signed : takeSign (text (.finite negative form.coefficient form.scale)).toList =
      (negative, c :: rest) := by
    rw [text, String.toList_ofList, shape]
    apply takeSign_append
    rintro _ ⟨⟩
    exact not_isSign_of_isDigit digit
  have read := writes.ofUnsigned?_eq
  rw [shape, sameSign] at read
  have noWord : c ≠ 'i' := ne_of_isDigit digit (by decide)
  simp only [ofText?, untouched, signed, List.map_cons, foldChar_of_isDigit digit]
  simp [noWord, dropWord?_of_isDigit digit, Char.isDigit, read, inRange]

theorem magnitudeText_zero (exponent : Int) :
    ∃ rest, magnitudeText 0 exponent = '0' :: rest ∧ ∀ c ∈ rest.head?, c.isDigit = false := by
  simp only [magnitudeText, Nat.toDigits_zero, List.length_singleton]
  split
  next positional =>
    split
    next whole => exact ⟨[], rfl, by simp⟩
    next broken =>
      obtain ⟨places, same⟩ := Nat.exists_eq_succ_of_ne_zero broken
      refine ⟨'.' :: (List.replicate places '0' ++ ['0']), ?_, by simp [Char.isDigit]⟩
      simp [same, List.replicate_succ]
  next scientific => exact ⟨_, rfl, by simp [Char.isDigit]⟩

end Decimal

namespace Uuid

open Numeral

theorem length_hex (width n : Nat) : (hex width n).length = width := by
  induction width generalizing n with
  | zero => rfl
  | succ width inductionHypothesis => simp [hex, inductionHypothesis]

theorem exists_hexDigit {width n : Nat} {c : Char} (member : c ∈ hex width n) :
    ∃ digit < 16, c = hexDigit digit := by
  induction width generalizing n with
  | zero => simp [hex] at member
  | succ width inductionHypothesis =>
      rcases List.mem_append.mp member with earlier | last
      · exact inductionHypothesis earlier
      · exact ⟨n % 16, Nat.mod_lt n (by decide), List.mem_singleton.mp last⟩

theorem digitOf?_hexDigit {digit : Nat} (small : digit < 16) :
    digitOf? 16 (hexDigit digit) = some digit :=
  (by decide : ∀ digit < 16, digitOf? 16 (hexDigit digit) = some digit) digit small

theorem valueFrom_hex {width n : Nat} (fits : n < 16 ^ width) :
    valueFrom 16 0 (hex width n) = n := by
  induction width generalizing n with
  | zero =>
      obtain rfl : n = 0 := by simpa using fits
      rfl
  | succ width inductionHypothesis =>
      have earlier := inductionHypothesis (show n / 16 < 16 ^ width by omega)
      unfold valueFrom at earlier ⊢
      rw [hex, List.foldl_append, earlier, List.foldl_cons, List.foldl_nil,
        digitOf?_hexDigit (Nat.mod_lt n (by decide)), Option.getD_some]
      omega

theorem notMem_hex {c : Char} (noDigit : ∀ digit < 16, hexDigit digit ≠ c) (width n : Nat) :
    c ∉ hex width n := by
  intro member
  obtain ⟨digit, small, rfl⟩ := exists_hexDigit member
  exact noDigit digit small rfl

theorem ofHexText?_hex {width n : Nat} (fits : n < 16 ^ (width + 1)) :
    Integer.ofHexText? (hex (width + 1) n) = some n := by
  have digital : ∀ c ∈ hex (width + 1) n, (digitOf? 16 c).isSome = true := by
    intro c member
    obtain ⟨digit, small, rfl⟩ := exists_hexDigit member
    rw [digitOf?_hexDigit small, Option.isSome_some]
  have untouched : plain (hex (width + 1) n) = hex (width + 1) n := by
    apply plain_eq_self
    · intro c member
      obtain ⟨digit, small, rfl⟩ := exists_hexDigit member
      exact plainChar_eq_self
        ((by decide : ∀ digit < 16, (hexDigit digit).toNat < 128) digit small)
    · intro c member
      obtain ⟨digit, small, rfl⟩ := exists_hexDigit member
      exact (by decide : ∀ digit < 16, isBlank (hexDigit digit) = false) digit small
  have unsigned : takeSign (hex (width + 1) n) = (false, hex (width + 1) n) := by
    have minus : '-' ∉ hex (width + 1) n := notMem_hex (by decide) _ _
    have plus : '+' ∉ hex (width + 1) n := notMem_hex (by decide) _ _
    refine takeSign_append false fun c first => ?_
    have member := List.mem_of_mem_head? first
    exact ⟨fun same => minus (same ▸ member), fun same => plus (same ▸ member)⟩
  have unmarked : Integer.dropHexMark (hex (width + 1) n) = hex (width + 1) n := by
    have small : 'x' ∉ hex (width + 1) n := notMem_hex (by decide) _ _
    have capital : 'X' ∉ hex (width + 1) n := notMem_hex (by decide) _ _
    unfold Integer.dropHexMark
    split <;> simp_all
  have nonempty : hex (width + 1) n ≠ [] := by
    rw [← List.length_pos_iff, length_hex]
    omega
  rw [Integer.ofHexText?, untouched, unsigned]
  simp [unmarked, Integer.readUnsigned_eq_ok digital nonempty, valueFrom_hex fits, Double.withSign,
    Except.toOption]

theorem filter_grouped {digits : List Char} (length : digits.length = 32)
    (noHyphen : '-' ∉ digits) :
    (grouped digits).toList.filter (· ≠ '-') = digits := by
  have kept (start size : Nat) : ((digits.drop start).take size).filter (· ≠ '-') =
      (digits.drop start).take size := by
    apply List.filter_eq_self.mpr
    intro c member
    have inside : c ∈ digits := List.mem_of_mem_drop (List.mem_of_mem_take member)
    have differ : c ≠ '-' := by
      rintro rfl
      exact noHyphen inside
    simpa using differ
  have joined (start size : Nat) : (digits.drop start).take size ++ digits.drop (start + size) =
      digits.drop start := by
    rw [← List.drop_drop, List.take_append_drop]
  have last : (digits.drop 20).take 12 = digits.drop 20 :=
    List.take_of_length_le (by simp [length])
  calc (grouped digits).toList.filter (· ≠ '-')
      = (digits.drop 0).take 8 ++ ((digits.drop 8).take 4 ++ ((digits.drop 12).take 4 ++
          ((digits.drop 16).take 4 ++ (digits.drop 20).take 12))) := by
        simp only [grouped, String.toList_ofList, List.filter_append, List.filter_cons, kept]
        simp
    _ = digits.drop 0 := by
        rw [last, joined 16 4, joined 12 4, joined 8 4, joined 0 8]
    _ = digits := rfl

theorem exists_hexDigit_of_text {id : Uuid} {c : Char} (member : c ∈ id.text.toList) :
    c = '-' ∨ ∃ digit < 16, c = hexDigit digit := by
  have inGroup {start size : Nat} (inside : c ∈ ((hex 32 id.toNat).drop start).take size) :
      ∃ digit < 16, c = hexDigit digit :=
    exists_hexDigit (List.mem_of_mem_drop (List.mem_of_mem_take inside))
  simp only [text, grouped, String.toList_ofList, List.mem_append, List.mem_cons] at member
  rcases member with (((inside | rfl | inside) | rfl | inside) | rfl | inside) | rfl | inside
  all_goals first | exact .inl rfl | exact .inr (inGroup inside)

theorem notMem_text {id : Uuid} {c : Char} (noDigit : ∀ digit < 16, hexDigit digit ≠ c)
    (noHyphen : c ≠ '-') : c ∉ id.text.toList := by
  intro member
  rcases exists_hexDigit_of_text member with hyphen | ⟨digit, small, rfl⟩
  · exact noHyphen hyphen
  · exact noDigit digit small rfl

theorem isBlank_of_mem_text {id : Uuid} {c : Char} (member : c ∈ id.text.toList) :
    isBlank c = false := by
  rcases exists_hexDigit_of_text member with rfl | ⟨digit, small, rfl⟩
  · decide
  · exact (by decide : ∀ digit < 16, isBlank (hexDigit digit) = false) digit small

theorem ofText?_text (id : Uuid) : ofText? id.text = some id := by
  have unmarked : replaceWord "uuid:".toList [] (replaceWord "urn:".toList [] id.text.toList) =
      id.text.toList := by
    have noColon : ':' ∉ id.text.toList := notMem_text (by decide) (by decide)
    rw [replaceWord_of_absent (c := ':') (by decide) noColon,
      replaceWord_of_absent (c := ':') (by decide) noColon]
  have unbraced : trimWhere (fun c => c == '\x7b' || c == '\x7d') id.text.toList =
      id.text.toList := by
    have noOpening : '\x7b' ∉ id.text.toList := notMem_text (by decide) (by decide)
    have noClosing : '\x7d' ∉ id.text.toList := notMem_text (by decide) (by decide)
    apply trimWhere_of_forall
    intro c member
    simp only [Bool.or_eq_false_iff, beq_eq_false_iff_ne]
    exact ⟨fun same => noOpening (same ▸ member), fun same => noClosing (same ▸ member)⟩
  have digits : id.text.toList.filter (· ≠ '-') = hex 32 id.toNat :=
    filter_grouped (length_hex 32 _) (notMem_hex (by decide) _ _)
  have fits : id.toNat < 16 ^ 32 := by simpa using id.isLt
  have number : Integer.ofHexText? (hex 32 id.toNat) = some id.toNat := ofHexText?_hex fits
  simp only [ofText?, unmarked, unbraced, digits, length_hex, if_true, number]
  simp

end Uuid

end GridQuery
