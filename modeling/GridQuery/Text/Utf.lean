import GridQuery.Number.Numeral
import GridQuery.Text.Quoted

/-!
Texts in bytes.  `Utf.decode` reads the UTF-8, UTF-16 and UTF-32 forms and says
where the first malformed place is; `Utf.decodeLossy` reads UTF-8 and puts a
replacement character in each malformed place.
-/

namespace GridQuery.Utf

def replacement : Char := '\uFFFD'

inductive Encoding where
  | eight
  | sixteen (bigEndian : Bool)
  | thirtyTwo (bigEndian : Bool)
  deriving DecidableEq, Repr

inductive Fault where
  | invalidStart
  | invalidContinuation
  | unexpectedEnd
  | truncated
  | outOfRange
  deriving DecidableEq, Repr

/-- The first malformed place: the bytes it covers and where it begins. -/
structure Malformed where
  encoding : Encoding
  fault : Fault
  position : Nat
  place : List UInt8
  deriving DecidableEq, Repr

inductive Step where
  | char (c : Char) (size : Nat)
  | malformed (fault : Fault) (size : Nat)

/-- The character with a code point; a lone half of a surrogate pair is replaced. -/
def charOf (n : Nat) : Char :=
  if n.isValidChar then Char.ofNat n else replacement

def tailSize? (b : UInt8) : Option Nat :=
  if b < 0x80 then some 0
  else if b < 0xC2 then none
  else if b < 0xE0 then some 1
  else if b < 0xF0 then some 2
  else if b < 0xF5 then some 3
  else none

/-- The second byte keeps out overlong forms, surrogates and what is above U+10FFFF. -/
def isSecond (lead b : UInt8) : Bool :=
  let low : UInt8 := if lead = 0xE0 then 0xA0 else if lead = 0xF0 then 0x90 else 0x80
  let high : UInt8 := if lead = 0xED then 0x9F else if lead = 0xF4 then 0x8F else 0xBF
  low ≤ b && b ≤ high

def isContinuation (b : UInt8) : Bool :=
  0x80 ≤ b && b ≤ 0xBF

/-- The continuation bytes that may follow a first byte, at most `count` of them. -/
def tailOf (lead : UInt8) (count : Nat) (rest : List UInt8) : List UInt8 :=
  match rest.take count with
  | [] => []
  | second :: others =>
      if isSecond lead second then second :: others.takeWhile isContinuation else []

def leadBits (lead : UInt8) (tail : Nat) : Nat :=
  if tail = 0 then lead.toNat else lead.toNat % twoTo (6 - tail)

def stepEight (lead : UInt8) (rest : List UInt8) : Step :=
  match tailSize? lead with
  | none => .malformed .invalidStart 1
  | some count =>
      let tail := tailOf lead count rest
      if tail.length = count then
        let value := tail.foldl (fun n b => n * 64 + b.toNat % 64) (leadBits lead count)
        .char (charOf value) (count + 1)
      else
        let fault := if tail.length = rest.length then .unexpectedEnd else .invalidContinuation
        .malformed fault (tail.length + 1)

def isSurrogate : List UInt8 → Bool
  | a :: b :: c :: _ => a == 0xED && 0xA0 ≤ b && b ≤ 0xBF && isContinuation c
  | _ => false

def wordOf (bigEndian : Bool) (bytes : List UInt8) : Nat :=
  (if bigEndian then bytes else bytes.reverse).foldl (fun n b => n * 256 + b.toNat) 0

def stepSixteen (bigEndian : Bool) (bytes : List UInt8) : Step :=
  let unit := wordOf bigEndian (bytes.take 2)
  let next := wordOf bigEndian ((bytes.drop 2).take 2)
  if bytes.length < 2 then .malformed .truncated bytes.length
  else if 0xD800 ≤ unit ∧ unit < 0xDC00 ∧ 0xDC00 ≤ next ∧ next < 0xE000 ∧ 4 ≤ bytes.length then
    .char (charOf (0x10000 + (unit - 0xD800) * 0x400 + (next - 0xDC00))) 4
  else .char (charOf unit) 2

def stepThirtyTwo (bigEndian : Bool) (bytes : List UInt8) : Step :=
  let unit := wordOf bigEndian (bytes.take 4)
  if bytes.length < 4 then .malformed .truncated bytes.length
  else if 0x110000 ≤ unit then .malformed .outOfRange 4
  else .char (charOf unit) 4

def step (encoding : Encoding) (lead : UInt8) (rest : List UInt8) : Step :=
  match encoding with
  | .eight => if isSurrogate (lead :: rest) then .char replacement 3 else stepEight lead rest
  | .sixteen bigEndian => stepSixteen bigEndian (lead :: rest)
  | .thirtyTwo bigEndian => stepThirtyTwo bigEndian (lead :: rest)

def decodeFrom (encoding : Encoding) (position : Nat) : List UInt8 → Except Malformed (List Char)
  | [] => .ok []
  | lead :: rest =>
      match step encoding lead rest with
      | .malformed fault size => .error ⟨encoding, fault, position, (lead :: rest).take size⟩
      | .char c size => (c :: ·) <$> decodeFrom encoding (position + size) (rest.drop (size - 1))
termination_by bytes => bytes.length
decreasing_by simp only [List.length_cons, List.length_drop]; omega

def decodeLossy : List UInt8 → List Char
  | [] => []
  | lead :: rest =>
      match stepEight lead rest with
      | .malformed _ size => replacement :: decodeLossy (rest.drop (size - 1))
      | .char c size => c :: decodeLossy (rest.drop (size - 1))
termination_by bytes => bytes.length
decreasing_by all_goals (simp only [List.length_cons, List.length_drop]; omega)

/-- How the bytes of a text are written: by its byte order mark, otherwise by the places of
the zero bytes among the first four.  The mark is not part of the text. -/
def detect (bytes : List UInt8) : Encoding × List UInt8 :=
  match bytes with
  | 0 :: 0 :: 0xFE :: 0xFF :: rest => (.thirtyTwo true, rest)
  | 0xFF :: 0xFE :: 0 :: 0 :: rest => (.thirtyTwo false, rest)
  | 0xFE :: 0xFF :: rest => (.sixteen true, rest)
  | 0xFF :: 0xFE :: rest => (.sixteen false, rest)
  | 0xEF :: 0xBB :: 0xBF :: rest => (.eight, rest)
  | 0 :: 0 :: _ :: _ :: _ => (.thirtyTwo true, bytes)
  | 0 :: _ :: _ :: _ :: _ => (.sixteen true, bytes)
  | _ :: 0 :: 0 :: 0 :: _ => (.thirtyTwo false, bytes)
  | _ :: 0 :: _ :: _ :: _ => (.sixteen false, bytes)
  | [0, _] => (.sixteen true, bytes)
  | [_, 0] => (.sixteen false, bytes)
  | _ => (.eight, bytes)

/-- The text in some bytes.  Positions count from the first byte, after an UTF-8 mark. -/
def decode (bytes : List UInt8) : Except Malformed (List Char) :=
  let (encoding, content) := detect bytes
  decodeFrom encoding (if encoding = .eight then 0 else bytes.length - content.length) content

namespace Malformed

def encodingText : Encoding → String
  | .eight => "utf-8"
  | .sixteen bigEndian => if bigEndian then "utf-16-be" else "utf-16-le"
  | .thirtyTwo bigEndian => if bigEndian then "utf-32-be" else "utf-32-le"

def faultText : Fault → String
  | .invalidStart => "invalid start byte"
  | .invalidContinuation => "invalid continuation byte"
  | .unexpectedEnd => "unexpected end of data"
  | .truncated => "truncated data"
  | .outOfRange => "code point not in range(0x110000)"

def message (malformed : Malformed) : String :=
  let start := naturalText malformed.position
  let place :=
    match malformed.place with
    | [b] => "byte 0x" ++ String.ofList (Text.hex 2 b.toNat) ++ " in position " ++ start
    | bytes =>
        "bytes in position " ++ start ++ "-" ++ naturalText (malformed.position + bytes.length - 1)
  "'" ++ encodingText malformed.encoding ++ "' codec can't decode " ++ place ++ ": " ++
    faultText malformed.fault

end Malformed

end GridQuery.Utf
