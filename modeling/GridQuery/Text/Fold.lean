/-!
ASCII letter case.  Words of the request language are ASCII, and no other
letter folds onto one of theirs, so comparing them needs no larger alphabet;
the pattern match of the store folds the same letters.
-/

namespace GridQuery.Text

/-- The lower-case form of an ASCII letter, and every other character itself. -/
def foldChar (c : Char) : Char :=
  if 'A' ≤ c ∧ c ≤ 'Z' then Char.ofNat (c.toNat + 32) else c

def fold (s : String) : String :=
  String.ofList (s.toList.map foldChar)

end GridQuery.Text
