import GridQuery.Boundary.Issue
import GridQuery.Text.Pieces

/-!
Texts that stand for integers.  A text is first read as JSON writes an integer;
if that fails, it is respelled once: without the blanks around it, a plus sign,
leading zeros, a fraction of zeros and single underscores.  Only the digits of
a JSON integer are limited, so a long text may be respelled to a short number.
-/

namespace GridQuery.Boundary

open Text

def integerTextLimit : Nat := 4300

/-- An integer as JSON writes it; one that is too long is refused before what follows it is
looked at. -/
def jsonInteger (cs : List Char) : Except IssueKind Int :=
  let (negative, digits) := match cs with
    | '-' :: rest => (true, rest)
    | rest => (false, rest)
  let leading := digits.takeWhile Char.isDigit
  if digits.head? = some '0' then
    if digits.length = 1 then .ok 0 else .error .unreadableInteger
  else if integerTextLimit < leading.length + (cs.length - digits.length) then .error .hugeInteger
  else if leading.isEmpty ∨ leading.length ≠ digits.length then .error .unreadableInteger
  else .ok (Double.withSign negative (Numeral.valueOf digits))

/-- Drop the zeros and underscores behind a leading zero.  Digits and a minus sign end them; where
nothing or a point ends them, the last of them stays. -/
def dropLeadingZeros (last : Char) : List Char → Option (List Char)
  | [] => some [last]
  | c :: rest =>
      if c = '0' ∨ c = '_' then dropLeadingZeros c rest
      else if c.isDigit ∨ c = '-' then some (c :: rest)
      else if c = '.' then some (last :: c :: rest)
      else none

def withoutLeadingZeros : List Char → Option (List Char)
  | '0' :: rest => dropLeadingZeros '0' rest
  | c :: rest => if c.isDigit then some (c :: rest) else none
  | [] => none

def withoutZeroFraction (cs : List Char) : List Char :=
  let whole := cs.takeWhile (· ≠ '.')
  let fraction := cs.drop (whole.length + 1)
  if !fraction.isEmpty ∧ fraction.all (· = '0') then whole else cs

/-- Two underscores in a row. -/
def hasDoubleMark : List Char → Bool
  | '_' :: '_' :: _ => true
  | _ :: rest => hasDoubleMark rest
  | [] => false

def withoutMarks (cs : List Char) : List Char :=
  if cs.head? = some '_' ∨ cs.getLast? = some '_' ∨ hasDoubleMark cs then cs
  else cs.filter (· ≠ '_')

/-- The sign of a number, which may be a plus or a minus but not both: what is kept of it, and
what follows it. -/
def splitSign : List Char → Option (List Char × List Char)
  | '+' :: '-' :: _ => none
  | '+' :: rest => some ([], rest)
  | '-' :: rest => some (['-'], rest)
  | rest => some ([], rest)

def respelled (cs : List Char) : Option (List Char) := do
  let (sign, unsigned) ← splitSign (trimWhere isWhiteSpace cs)
  let digits ← withoutLeadingZeros unsigned
  some (sign ++ withoutMarks (withoutZeroFraction digits))

def integerOfText (s : String) : Checked Int :=
  match jsonInteger s.toList with
  | .ok n => .ok n
  | .error .hugeInteger => .issue .hugeInteger
  | .error _ =>
      match (respelled s.toList).bind fun cs => (jsonInteger cs).toOption with
      | some n => .ok n
      | none => .issue .unreadableInteger

example : (integerOfText " +0_5.00 ").result? = some 5 ∧
    (integerOfText "-0_7").result? = some (-7) ∧
    (integerOfText "5.").result? = none ∧ (integerOfText "-_3").result? = none := by decide +kernel

end GridQuery.Boundary
