import GridQuery.Text.Printable

/-!
Quoted texts and byte strings, as they appear inside the text of a list or an
object.  The quotation mark is the apostrophe unless the content holds an
apostrophe and no double quote; the mark and the backslash are escaped, and a
character that cannot be printed is written by its code point.
-/

namespace GridQuery.Text

def hexDigit (n : Nat) : Char :=
  if n < 10 then Char.ofNat ('0'.toNat + n) else Char.ofNat ('a'.toNat + (n - 10))

def hex : (width : Nat) → (n : Nat) → List Char
  | 0, _ => []
  | width + 1, n => hex width (n / 16) ++ [hexDigit (n % 16)]

/-- The quotation mark a content calls for. -/
def quoteMark (holdsApostrophe holdsQuote : Bool) : Char :=
  if holdsApostrophe && !holdsQuote then '"' else '\''

def sharedEscape? (mark c : Char) : Option (List Char) :=
  if c = mark ∨ c = '\\' then some ['\\', c]
  else if c = '\t' then some ['\\', 't']
  else if c = '\n' then some ['\\', 'n']
  else if c = '\r' then some ['\\', 'r']
  else none

def quotedChar (mark c : Char) : List Char :=
  match sharedEscape? mark c with
  | some escape => escape
  | none =>
      let n := c.toNat
      if isPrintable c then [c]
      else if n ≤ 0xFF then ['\\', 'x'] ++ hex 2 n
      else if n ≤ 0xFFFF then ['\\', 'u'] ++ hex 4 n
      else ['\\', 'U'] ++ hex 8 n

def quote (s : String) : String :=
  let cs := s.toList
  let mark := quoteMark (cs.contains '\'') (cs.contains '"')
  String.ofList (mark :: cs.flatMap (quotedChar mark) ++ [mark])

/-- One byte of a quoted byte string: printable ASCII stands for itself. -/
def quotedByte (mark : Char) (b : UInt8) : List Char :=
  let c := Char.ofNat b.toNat
  match sharedEscape? mark c with
  | some escape => escape
  | none => if 0x20 ≤ b && b < 0x7F then [c] else ['\\', 'x'] ++ hex 2 b.toNat

def quoteBytes (bytes : List UInt8) : String :=
  let mark := quoteMark (bytes.contains 0x27) (bytes.contains 0x22)
  String.ofList ('b' :: mark :: bytes.flatMap (quotedByte mark) ++ [mark])

end GridQuery.Text
