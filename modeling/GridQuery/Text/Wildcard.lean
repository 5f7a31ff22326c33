/-!
Wildcards of the pattern language.  A user's text is matched literally, so a
slash goes before each of its wildcards and before each of its slashes.
-/

namespace GridQuery.Text

def isWildcard (c : Char) : Bool :=
  c == '/' || c == '%' || c == '_'

def escapeWildcards (cs : List Char) : List Char :=
  cs.flatMap fun c => if isWildcard c then ['/', c] else [c]

@[simp] theorem escapeWildcards_nil : escapeWildcards [] = [] := rfl

theorem escapeWildcards_cons (c : Char) (cs : List Char) :
    escapeWildcards (c :: cs) = (if isWildcard c then ['/', c] else [c]) ++ escapeWildcards cs :=
  rfl

end GridQuery.Text
