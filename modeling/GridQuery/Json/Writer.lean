import GridQuery.Number.Shortest
import GridQuery.Text.Quoted
import GridQuery.Value.Basic

/-!
Writing JSON texts in ASCII.  Days, decimals, identifiers, byte strings and
sets have no JSON form.
-/

namespace GridQuery.Json

open Text

def unitEscape (n : Nat) : List Char :=
  ['\\', 'u'] ++ hex 4 n

def writeChar (c : Char) : List Char :=
  let n := c.toNat
  if c = '"' ∨ c = '\\' then ['\\', c]
  else if c = '\n' then ['\\', 'n']
  else if c = '\r' then ['\\', 'r']
  else if c = '\t' then ['\\', 't']
  else if c = '\x08' then ['\\', 'b']
  else if c = '\x0c' then ['\\', 'f']
  else if 0x20 ≤ n ∧ n < 0x7F then [c]
  else if n < 0x10000 then unitEscape n
  else unitEscape (0xD800 + (n - 0x10000) / 0x400) ++ unitEscape (0xDC00 + (n - 0x10000) % 0x400)

def writeString (s : String) : String :=
  String.ofList ('"' :: s.toList.flatMap writeChar ++ ['"'])

/-- The text of a double; the numbers that are not finite have names. -/
def writeDouble (x : Double) : String :=
  match x with
  | .nan => "NaN"
  | .infinite negative => if negative then "-Infinity" else "Infinity"
  | x => x.text

mutual

def write? : Value → Option String
  | .null => some "null"
  | .bool b => some (if b then "true" else "false")
  | .int n => Integer.text? n
  | .float x => some (writeDouble x)
  | .str s => some (writeString s)
  | .list items | .tuple items => do
      let texts ← writeItems? items
      some ("[" ++ String.intercalate ", " texts ++ "]")
  | .object members => do
      let texts ← writeMembers? members
      some ("\x7b" ++ String.intercalate ", " texts ++ "\x7d")
  | .bytes _ | .decimal _ | .uuid _ | .date _ | .moment _ | .set _ => none

def writeItems? : List Value → Option (List String)
  | [] => some []
  | item :: rest => do
      let text ← write? item
      let texts ← writeItems? rest
      some (text :: texts)

def writeMembers? : List (String × Value) → Option (List String)
  | [] => some []
  | (name, value) :: rest => do
      let text ← write? value
      let texts ← writeMembers? rest
      some ((writeString name ++ ": " ++ text) :: texts)

end

end GridQuery.Json
