import GridQuery.Options

/-!
Pages of a result.  A request names a page by its number, or by the first row
and the number of rows; what it asks for is clamped to what the options allow.
-/

namespace GridQuery

open Text

structure Page where
  number : Int := 1
  perPage : Int := 15
  deriving DecidableEq, Repr

structure Envelope where
  data : List Value
  total : Nat
  page : Page
  totalPages : Int
  deriving Repr

def Envelope.value (envelope : Envelope) : Value :=
  .object [("data", .list envelope.data), ("total", .int envelope.total),
    ("page", .int envelope.page.number), ("per_page", .int envelope.page.perPage),
    ("total_pages", .int envelope.totalPages)]

namespace Page

/-- The number of rows before the page. -/
def offset (page : Page) : Int :=
  (page.number - 1) * page.perPage

/-- The integer that a value stands for, if it stands for a number; a fraction is cut off.  An
integer of more digits than a text may have is read as little as its text would be. -/
def readInt? (value : Value) : Outcome (Option Int) :=
  match value with
  | .null | .bool _ => .ok none
  | .int n =>
      .ok (if Integer.digitLimit < (Nat.toDigits 10 n.natAbs).length then none else some n)
  | value =>
      match value.text?.map strip with
      | none => .ok none
      | some text =>
          match Integer.ofText? text with
          | some n => .ok (some n)
          | none =>
              match Double.ofText? text with
              | some (.infinite _) => giveUp .infiniteInteger
              | some x => .ok x.truncate?
              | none => .ok none

/-- The nearest number of a range; a range that is empty has only its lower end. -/
def clamp (value low high : Int) : Int :=
  max low (min high value)

def ofRows (options : QueryOptions) (first rows : Int) : Page :=
  let rows := max 1 rows
  ⟨max 0 first / rows + 1, clamp rows 1 options.maxPerPage⟩

def ofNumber (options : QueryOptions) (number perPage : Option Int) : Page :=
  ⟨max 1 (number.getD 1), clamp (perPage.getD options.defaultPerPage) 1 options.maxPerPage⟩

/-- The page that a request asks for; a first row and a number of rows win over a page number. -/
def ofRequest (options : QueryOptions) (request : Members) : Outcome Page := do
  let first ← readInt? (request.value "first")
  let rows ← readInt? (request.value "rows")
  match first, rows with
  | some first, some rows => .ok (ofRows options first rows)
  | _, _ =>
      let number ← readInt? (request.value "page")
      let perPage ← readInt? (request.value "per_page")
      .ok (ofNumber options number perPage)

/-- The number of pages: the quotient, rounded to a double and then up. -/
def count (total perPage : Int) : Outcome Int :=
  if total ≤ 0 then .ok 0
  else
    match (Double.ofRatio false total.toNat (max 1 perPage).toNat).ceil? with
    | some n => .ok n
    | none => giveUp .hugeQuotient

end Page

end GridQuery
