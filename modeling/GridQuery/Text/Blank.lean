/-!
Blank characters and trimming.  A character is blank when the Unicode
`White_Space` property holds of it or it is one of the four information
separators; `strip` removes blanks at both ends and keeps everything between.
-/

namespace GridQuery.Text

/-- A blank is white space or one of the information separators U+001C to U+001F. -/
def isBlank (c : Char) : Bool :=
  let n := c.toNat
  (0x09 ≤ n && n ≤ 0x0D) || (0x1C ≤ n && n ≤ 0x20) || n == 0x85 || n == 0xA0 || n == 0x1680 ||
    (0x2000 ≤ n && n ≤ 0x200A) || n == 0x2028 || n == 0x2029 || n == 0x202F || n == 0x205F ||
    n == 0x3000

/-- White space in the narrow sense: the information separators are not in it. -/
def isWhiteSpace (c : Char) : Bool :=
  isBlank c && !(0x1C ≤ c.toNat && c.toNat ≤ 0x1F)

/-- The six blanks of a byte string. -/
def isByteBlank (b : UInt8) : Bool :=
  (9 ≤ b && b ≤ 13) || b == 32

/-- Drop the elements of one kind at both ends. -/
def trimWhere {α : Type} (blank : α → Bool) (items : List α) : List α :=
  ((items.dropWhile blank).reverse.dropWhile blank).reverse

def stripChars (cs : List Char) : List Char :=
  trimWhere isBlank cs

def strip (s : String) : String :=
  String.ofList (stripChars s.toList)

def isBlankText (s : String) : Bool :=
  s.toList.all isBlank

theorem toNat_of_isDigit {c : Char} (digit : c.isDigit = true) : 48 ≤ c.toNat ∧ c.toNat ≤ 57 := by
  simp only [Char.isDigit, Bool.and_eq_true, decide_eq_true_eq] at digit
  exact digit

theorem isBlank_of_isDigit {c : Char} (digit : c.isDigit = true) : isBlank c = false := by
  obtain ⟨low, high⟩ := toNat_of_isDigit digit
  simp only [isBlank, Bool.or_eq_false_iff, Bool.and_eq_false_iff, beq_eq_false_iff_ne,
    decide_eq_false_iff_not]
  omega

end GridQuery.Text
