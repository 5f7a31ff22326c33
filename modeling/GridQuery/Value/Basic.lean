import GridQuery.Calendar.Moment
import GridQuery.Number.Decimal

/-!
The values that requests carry and that conditions compare with.  An object
keeps the order of its members.
-/

namespace GridQuery

abbrev Uuid := BitVec 128

inductive Value where
  | null
  | bool (b : Bool)
  | int (n : Int)
  | float (x : Double)
  | str (s : String)
  | bytes (content : List UInt8)
  | decimal (d : Decimal)
  | uuid (id : Uuid)
  | date (day : Date)
  | moment (time : Moment)
  | list (items : List Value)
  | tuple (items : List Value)
  | set (items : List Value)
  | object (members : List (String × Value))
  deriving Repr, Inhabited

abbrev Members := List (String × Value)

namespace Members

def value? (members : Members) (name : String) : Option Value :=
  members.lookup name

/-- The value under a name, null if there is none. -/
def value (members : Members) (name : String) : Value :=
  (members.value? name).getD .null

/-- Write a value under a name: a new name goes to the end, a known one keeps its place. -/
def put (name : String) (value : Value) : Members → Members
  | [] => [(name, value)]
  | (known, old) :: rest =>
      if known = name then (known, value) :: rest else (known, old) :: put name value rest

/-- The members of a list of pairs in which a later pair replaces an earlier one of its name. -/
def ofPairs (pairs : List (String × Value)) : Members :=
  pairs.foldl (fun members pair => put pair.1 pair.2 members) []

theorem value?_put (name : String) (value : Value) (members : Members) :
    (put name value members).value? name = some value := by
  induction members with
  | nil => simp [put, value?]
  | cons member rest inductionHypothesis =>
      obtain ⟨known, old⟩ := member
      simp only [value?] at inductionHypothesis ⊢
      by_cases same : known = name
      · simp [put, same]
      · have other : (name == known) = false := by simpa using Ne.symm same
        simpa [put, same, List.lookup_cons, other] using inductionHypothesis

end Members

namespace Value

/-- A value that counts as given: not null, false, zero or empty. -/
def isTruthy : Value → Bool
  | null => false
  | bool b => b
  | int n => n != 0
  | float x => !x.isZero
  | str s => !s.isEmpty
  | bytes content => !content.isEmpty
  | decimal d => !d.isZero
  | uuid _ | date _ | moment _ => true
  | list items | tuple items | set items => !items.isEmpty
  | object members => !members.isEmpty

def isNull : Value → Bool
  | null => true
  | _ => false

/-- The first value if it counts as given, otherwise the second. -/
def orElse (first second : Value) : Value :=
  if first.isTruthy then first else second

theorem orElse_str (s other : String) :
    (str s).orElse (str other) = str (if s = "" then other else s) := by
  by_cases empty : s = "" <;> simp [orElse, isTruthy, empty]

theorem orElse_empty (s : String) : (str s).orElse (.str "") = .str s := by
  rw [orElse_str]
  split <;> simp_all

def isBlank : Value → Bool
  | null => true
  | str s => s.isEmpty
  | list items | tuple items => items.isEmpty
  | _ => false

end Value

end GridQuery
