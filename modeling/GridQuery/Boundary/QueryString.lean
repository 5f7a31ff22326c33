import GridQuery.Text.Pieces
import GridQuery.Text.Utf
import GridQuery.Value.Basic

/-!
Query strings.  Parameters stand between ampersands, a name and its value
around an equals sign; a plus sign is a blank and a percent sign with two
hexadecimal digits a byte of UTF-8.
-/

namespace GridQuery.QueryString

open Text

/-- Named texts in the order they were given; a name may stand more than once. -/
abbrev Parameters := List (String × String)

def unescape : List Char → List UInt8
  | [] => []
  | '%' :: a :: b :: rest =>
      match Numeral.digitOf? 16 a, Numeral.digitOf? 16 b with
      | some high, some low => UInt8.ofNat (16 * high + low) :: unescape rest
      | _, _ => 0x25 :: unescape (a :: b :: rest)
  | c :: rest => UInt8.ofNat c.toNat :: unescape rest
termination_by cs => cs.length
decreasing_by all_goals (simp only [List.length_cons]; omega)

def isAscii (c : Char) : Bool := c.toNat < 128

/-- Resolve the escapes in every run of ASCII characters; other characters stand for themselves. -/
def decodeChars : List Char → List Char
  | [] => []
  | c :: rest =>
      if isAscii c then
        Utf.decodeLossy (unescape (c :: rest.takeWhile isAscii)) ++
          decodeChars (rest.drop (rest.takeWhile isAscii).length)
      else c :: decodeChars rest
termination_by cs => cs.length
decreasing_by all_goals (simp only [List.length_cons, List.length_drop]; omega)

def decode (cs : List Char) : String :=
  String.ofList (decodeChars (cs.map fun c => if c = '+' then ' ' else c))

def parameter (cs : List Char) : String × String :=
  (decode (cs.takeWhile (· ≠ '=')), decode (cs.drop ((cs.takeWhile (· ≠ '=')).length + 1)))

def parse (query : String) : Parameters :=
  ((splitOn '&' query.toList).filter (!·.isEmpty)).map parameter

def valuesOf (parameters : Parameters) (name : String) : List String :=
  (parameters.filter (·.1 == name)).map (·.2)

def oneOrMany : List String → Value
  | [only] => .str only
  | values => .list (values.map .str)

def names (parameters : Parameters) : List String :=
  (parameters.map (·.1)).eraseDups

/-- Each name with its value, or with the list of its values if it stands more than once. -/
def grouped (parameters : Parameters) : Members :=
  (names parameters).map fun name => (name, oneOrMany (valuesOf parameters name))

/-- The values of a list parameter; a single one that opens a JSON list stands for itself. -/
def listParameter (values : List Value) : Value :=
  match values with
  | [.str only] =>
      if (only.toList.dropWhile isBlank).head? = some '[' then .str only else .list values
  | values => .list values

end GridQuery.QueryString
