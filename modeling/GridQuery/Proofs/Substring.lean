import GridQuery.Proofs.Overrun
import GridQuery.Proofs.RowFilter
import GridQuery.Sample.Rows
import Mathlib.Data.List.TakeWhile

/-!
Patterns that look for a text.  The pattern of a user's text has wildcards at
the ends where anything may stand, and every character of the text stands for
itself, so the store finds exactly the occurrences of the text.
-/

namespace GridQuery

/-- A text occurs in another one where an anchor looks for it. -/
def Anchor.Finds : Anchor → List Char → List Char → Prop
  | .anywhere, term, text => term <:+: text
  | .start, term, text => term <+: text
  | .finish, term, text => term <:+ text

namespace Store

open Text

theorem mem_suffixes_iff {Item : Type} {tail items : List Item} :
    tail ∈ suffixes items ↔ tail <:+ items := by
  induction items with
  | nil => simp [suffixes]
  | cons item rest inductionHypothesis =>
      rw [suffixes, List.mem_cons, inductionHypothesis, List.suffix_cons_iff]

theorem patternParts?_cons {c : Char} (plain : isWildcard c = false) (rest : List Char) :
    patternParts? (c :: rest) = (patternParts? rest).map (.literal c :: ·) := by
  obtain ⟨⟨notSlash, notPercent⟩, notUnderscore⟩ : (c ≠ '/' ∧ c ≠ '%') ∧ c ≠ '_' := by
    simpa [isWildcard] using plain
  rw [patternParts?] <;> simp_all

theorem patternParts?_escapeWildcards (term rest : List Char) :
    patternParts? (escapeWildcards term ++ rest) =
      (patternParts? rest).map (term.map PatternPart.literal ++ ·) := by
  induction term with
  | nil => simp
  | cons c later inductionHypothesis =>
      rw [escapeWildcards_cons, List.append_assoc]
      by_cases wildcard : isWildcard c = true
      · simp [wildcard, patternParts?, inductionHypothesis, Function.comp_def]
      · rw [Bool.not_eq_true] at wildcard
        simp [wildcard, patternParts?_cons, inductionHypothesis, Function.comp_def]

theorem matchesParts_any_iff {parts : List PatternPart} {text : List Char} :
    matchesParts (.any :: parts) text = true ↔
      ∃ tail, tail <:+ text ∧ matchesParts parts tail = true := by
  simp [matchesParts, mem_suffixes_iff]

/-- Literal parts match at the front of a text, letter case of ASCII apart. -/
theorem matchesParts_literals_iff {term text : List Char} {parts : List PatternPart} :
    matchesParts (term.map .literal ++ parts) text = true ↔
      ∃ front tail, text = front ++ tail ∧ front.map foldChar = term.map foldChar ∧
        matchesParts parts tail = true := by
  induction term generalizing text with
  | nil => simp
  | cons c later inductionHypothesis =>
      cases text with
      | nil => simp [matchesParts]
      | cons d rest =>
          simp only [List.map_cons, List.cons_append, matchesParts, Bool.and_eq_true, beq_iff_eq,
            inductionHypothesis]
          constructor
          · rintro ⟨same, front, tail, rfl, sameFront, matched⟩
            exact ⟨d :: front, tail, rfl, by simp [same, sameFront], matched⟩
          · rintro ⟨front, tail, split, sameFront, matched⟩
            cases front with
            | nil => simp at sameFront
            | cons e front =>
                obtain ⟨rfl, rfl⟩ : d = e ∧ rest = front ++ tail := by simpa using split
                obtain ⟨same, sameLater⟩ :
                  foldChar d = foldChar c ∧ front.map foldChar = later.map foldChar := by
                    simpa using sameFront
                exact ⟨same.symm, front, tail, rfl, sameLater, matched⟩

/-- The pattern match sees the whole of a text without NUL. -/
theorem visible_eq_self {text : List Char} (whole : '\x00' ∉ text) : visible text = text := by
  refine List.takeWhile_eq_self_iff.mpr fun c member => ?_
  have apart : c ≠ '\x00' := fun isNul => whole (isNul ▸ member)
  simpa using apart

theorem visible_patternOf (anchor : Anchor) {term : String} (whole : '\x00' ∉ term.toList) :
    visible (patternOf anchor term).toList = (patternOf anchor term).toList := by
  refine visible_eq_self ?_
  have escaped : '\x00' ∉ escapeWildcards term.toList := by
    unfold escapeWildcards
    rw [List.mem_flatMap]
    rintro ⟨c, member, inPiece⟩
    have apart : '\x00' ≠ c := fun isNul => whole (isNul ▸ member)
    split at inPiece <;> simp [apart] at inPiece
  cases anchor <;> simp [patternOf, escaped]

theorem patternParts?_patternOf (anchor : Anchor) (term : String) :
    patternParts? (patternOf anchor term).toList = some (match anchor with
      | .anywhere => .any :: (term.toList.map .literal ++ [.any])
      | .start => term.toList.map .literal ++ [.any]
      | .finish => .any :: (term.toList.map .literal ++ [])) := by
  have atEnd := patternParts?_escapeWildcards term.toList []
  cases anchor with
  | anywhere => simp [patternOf, patternParts?, patternParts?_escapeWildcards]
  | start => simp [patternOf, patternParts?, patternParts?_escapeWildcards]
  | finish => simpa [patternOf, patternParts?] using atEnd

theorem matchesParts_literals_any_iff {term text : List Char} :
    matchesParts (term.map .literal ++ [.any]) text = true ↔
      term.map foldChar <+: text.map foldChar := by
  have anyTail (tail : List Char) : matchesParts [.any] tail = true :=
    matchesParts_any_iff.mpr ⟨[], List.nil_suffix, rfl⟩
  rw [matchesParts_literals_iff, List.prefix_map_iff]
  constructor
  · rintro ⟨front, tail, rfl, same, -⟩
    exact ⟨front, List.prefix_append front tail, same.symm⟩
  · rintro ⟨front, ⟨tail, rfl⟩, same⟩
    exact ⟨front, tail, rfl, same.symm, anyTail tail⟩

theorem matchesParts_literals_nil_iff {term text : List Char} :
    matchesParts (term.map .literal ++ []) text = true ↔
      text.map foldChar = term.map foldChar := by
  rw [matchesParts_literals_iff]
  constructor
  · rintro ⟨front, tail, rfl, same, ended⟩
    obtain rfl : tail = [] := by simpa [matchesParts] using ended
    simpa using same
  · intro same
    exact ⟨text, [], by simp, same, rfl⟩

/-- A text matches the pattern of another one exactly if that one occurs in it at the anchor, letter
case of ASCII apart. -/
theorem isLike_patternOf_iff (anchor : Anchor) {term text : String}
    (termWhole : '\x00' ∉ term.toList) (textWhole : '\x00' ∉ text.toList) :
    isLike (patternOf anchor term) text = true ↔
      anchor.Finds (fold term).toList (fold text).toList := by
  rw [isLike, visible_patternOf anchor termWhole, visible_eq_self textWhole,
    patternParts?_patternOf]
  simp only [fold, String.toList_ofList]
  cases anchor with
  | start => exact matchesParts_literals_any_iff
  | finish =>
      rw [matchesParts_any_iff, Anchor.Finds, List.suffix_map_iff]
      constructor
      · rintro ⟨tail, ofText, same⟩
        exact ⟨tail, ofText, (matchesParts_literals_nil_iff.mp same).symm⟩
      · rintro ⟨tail, ofText, same⟩
        exact ⟨tail, ofText, matchesParts_literals_nil_iff.mpr same.symm⟩
  | anywhere =>
      simp only [matchesParts_any_iff, matchesParts_literals_any_iff, Anchor.Finds,
        List.infix_iff_prefix_suffix, List.suffix_map_iff]
      constructor
      · rintro ⟨tail, ofText, begins⟩
        exact ⟨_, begins, tail, ofText, rfl⟩
      · rintro ⟨-, begins, tail, ofText, rfl⟩
        exact ⟨tail, ofText, begins⟩

end Store

namespace Filter

open Store MatchMode

section

variable {database : Database} {environment : Environment} {field : Field} {mode : MatchMode}
  {term : String}

theorem holds_like_iff {stored : String} (cell : environment.cell field = .text stored)
    (negated : Bool) (anchor : Anchor) :
    holds database environment (.like field negated anchor term) = true ↔
      (isLike (patternOf anchor term) stored = true ↔ negated = false) := by
  cases matched : isLike (patternOf anchor term) stored <;> cases negated <;>
    simp [holds, truth, cell, likeCell, Cell.castText?, matched, Truth.negateIf, Truth.not,
      Truth.isTrue]

theorem not_holds_like_of_null (cell : environment.cell field = .null) (negated : Bool)
    (anchor : Anchor) :
    holds database environment (.like field negated anchor term) = false := by
  cases negated <;>
    simp [holds, truth, cell, likeCell, Cell.castText?, Truth.negateIf, Truth.not, Truth.isTrue]

theorem build_substring (inModes : mode ∈ substringModes) :
    ∃ negated anchor, build field mode (.str term) = .ok (some (.like field negated anchor term)) :=
  build_of_substring inModes

theorem selects_like_iff {negated : Bool} {anchor : Anchor}
    (built : build field mode (.str term) = .ok (some (.like field negated anchor term)))
    (termWhole : '\x00' ∉ term.toList) {stored : String}
    (cell : environment.cell field = .text stored) (storedWhole : '\x00' ∉ stored.toList) :
    Selects database environment field mode (.str term) ↔
      (anchor.Finds (Text.fold term).toList (Text.fold stored).toList ↔ negated = false) := by
  rw [selects_iff_holds built, holds_like_iff cell,
    isLike_patternOf_iff anchor termWhole storedWhole]

end

/-- A mode of substrings selects a stored text exactly if the user's text occurs in it there, letter
case of ASCII apart, whatever wildcards and slashes the two hold; its opposite selects the other
texts, and neither selects null. -/
theorem substringModes_select (term : String) (termWhole : '\x00' ∉ term.toList) (field : Field) :
    (∀ mode ∈ substringModes, Compiles field mode (.str term)) ∧
      ∀ (database : Database) (environment : Environment),
        (environment.cell field = .null →
          ∀ mode ∈ substringModes, ¬ Selects database environment field mode (.str term)) ∧
        ∀ stored : String, environment.cell field = .text stored → '\x00' ∉ stored.toList →
          (Selects database environment field .contains (.str term) ↔
            (Text.fold term).toList <:+: (Text.fold stored).toList) ∧
          (Selects database environment field .startsWith (.str term) ↔
            (Text.fold term).toList <+: (Text.fold stored).toList) ∧
          (Selects database environment field .endsWith (.str term) ↔
            (Text.fold term).toList <:+ (Text.fold stored).toList) ∧
          (Selects database environment field .notContains (.str term) ↔
            ¬ Selects database environment field .contains (.str term)) := by
  refine ⟨fun mode inModes => ?_, fun database environment => ⟨fun null mode inModes => ?_, ?_⟩⟩
  · obtain ⟨negated, anchor, built⟩ := build_substring inModes
    exact ⟨_, built⟩
  · obtain ⟨negated, anchor, built⟩ := build_substring inModes
    rw [selects_iff_holds built, not_holds_like_of_null null]
    exact Bool.false_ne_true
  · intro stored cell storedWhole
    have finds {mode : MatchMode} (anchor : Anchor)
        (built : build field mode (.str term) = .ok (some (.like field false anchor term))) :
        Selects database environment field mode (.str term) ↔
          anchor.Finds (Text.fold term).toList (Text.fold stored).toList :=
      (selects_like_iff built termWhole cell storedWhole).trans (iff_true_right rfl)
    have contained : Selects database environment field .contains (.str term) ↔ _ :=
      finds .anywhere rfl
    refine ⟨contained, finds .start rfl, finds .finish rfl, ?_⟩
    have built : build field .notContains (.str term) =
      .ok (some (.like field true .anywhere term)) := rfl
    rw [contained, selects_like_iff built termWhole cell storedWhole]
    simp [Anchor.Finds]

/-- The wildcards of a searched text stand for themselves in a title of the sample. -/
theorem substringModes_select_pure_python :
    let title : Field := ⟨"posts", Sample.column "title" .text⟩
    let environment := Environment.ofRow "posts" (Sample.posts.getD 1 fun _ => .null)
    environment.cell title = .text "100% Pure_Python" ∧
      Selects Sample.database environment title .contains (.str "% PURE_") ∧
      ¬ Selects Sample.database environment title .notContains (.str "% PURE_") ∧
      ¬ Selects Sample.database environment title .startsWith (.str "% PURE_") ∧
      Selects Sample.database environment title .endsWith (.str "_python") ∧
      ¬ Selects Sample.database (.ofRow "posts" fun _ => .null) title .contains
        (.str "% PURE_") := by
  intro title environment
  have cell : environment.cell title = .text "100% Pure_Python" := by decide +kernel
  obtain ⟨-, wildcards⟩ := substringModes_select "% PURE_" (by decide +kernel) title
  obtain ⟨-, ending⟩ := substringModes_select "_python" (by decide +kernel) title
  obtain ⟨contained, starting, -, opposite⟩ :=
    (wildcards Sample.database environment).2 _ cell (by decide +kernel)
  obtain ⟨-, -, finishing, -⟩ := (ending Sample.database environment).2 _ cell (by decide +kernel)
  have found := contained.mpr (by decide +kernel)
  refine ⟨cell, found, mt opposite.mp (not_not_intro found), ?_, ?_, ?_⟩
  · exact mt starting.mp (by decide +kernel)
  · exact finishing.mpr (by decide +kernel)
  · exact (wildcards Sample.database _).1 rfl .contains (by decide)

end Filter

end GridQuery
