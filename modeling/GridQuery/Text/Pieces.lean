/-!
Cutting a text into pieces.  `splitOn` cuts at every occurrence of a separator
and keeps empty pieces; `replaceWord` exchanges every occurrence of a word.
-/

namespace GridQuery.Text

/-- Replace every occurrence of a non-empty word, from left to right. -/
def replaceWord (word replacement : List Char) : List Char → List Char
  | [] => []
  | c :: rest =>
      if word.isPrefixOf (c :: rest) then
        replacement ++ replaceWord word replacement (rest.drop (word.length - 1))
      else c :: replaceWord word replacement rest
termination_by cs => cs.length
decreasing_by all_goals (simp only [List.length_cons, List.length_drop]; omega)

def splitOn {α : Type} [DecidableEq α] (separator : α) : List α → List (List α)
  | [] => [[]]
  | item :: rest =>
      if item = separator then [] :: splitOn separator rest
      else
        match splitOn separator rest with
        | [] => [[item]]
        | piece :: pieces => (item :: piece) :: pieces

def split (separator : Char) (s : String) : List String :=
  (splitOn separator s.toList).map String.ofList

theorem splitOn_ne_nil {α : Type} [DecidableEq α] (separator : α) (items : List α) :
    splitOn separator items ≠ [] := by
  cases items with
  | nil => simp [splitOn]
  | cons item rest =>
      simp only [splitOn]
      split
      · simp
      · split <;> simp

end GridQuery.Text
