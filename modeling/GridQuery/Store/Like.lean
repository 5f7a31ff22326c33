import GridQuery.Text.Fold

/-!
Patterns of the store.  In a pattern `%` stands for any text, `_` for any one
character, and a slash takes the meaning from the character after it; letters
of ASCII match in either case.
-/

namespace GridQuery.Store

open Text

inductive PatternPart where
  | any
  | one
  | literal (c : Char)
  deriving DecidableEq, Repr

/-- The parts of a pattern; a slash at its end leaves no pattern at all. -/
def patternParts? : List Char → Option (List PatternPart)
  | [] => some []
  | ['/'] => none
  | '/' :: c :: rest => (patternParts? rest).map (.literal c :: ·)
  | '%' :: rest => (patternParts? rest).map (.any :: ·)
  | '_' :: rest => (patternParts? rest).map (.one :: ·)
  | c :: rest => (patternParts? rest).map (.literal c :: ·)

def suffixes {α : Type} : List α → List (List α)
  | [] => [[]]
  | item :: rest => (item :: rest) :: suffixes rest

def matchesParts : List PatternPart → List Char → Bool
  | [], cs => cs.isEmpty
  | .any :: rest, cs => (suffixes cs).any (matchesParts rest)
  | .one :: rest, cs =>
      match cs with
      | [] => false
      | _ :: cs => matchesParts rest cs
  | .literal p :: rest, cs =>
      match cs with
      | [] => false
      | c :: cs => foldChar p == foldChar c && matchesParts rest cs

/-- The part of a text that the pattern match sees: it ends before the first NUL. -/
def visible (cs : List Char) : List Char :=
  cs.takeWhile (· ≠ '\x00')

def isLike (pattern text : String) : Bool :=
  match patternParts? (visible pattern.toList) with
  | none => false
  | some parts => matchesParts parts (visible text.toList)

end GridQuery.Store
