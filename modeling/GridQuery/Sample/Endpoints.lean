import GridQuery.Boundary.Endpoint
import GridQuery.Sample.Rows

/-!
Endpoints of the sample schema, and the callbacks of their declared filters.
-/

namespace GridQuery.Sample

def postViews : Field := field post.table "views" .integer

def integerIn (s shown : String) : Outcome Int :=
  match Integer.read s with
  | .ok n => .ok n
  | .error failure => giveUp (.notInteger shown failure)

def wholePart (negative : Bool) (coefficient : Nat) (exponent : Int) : Outcome Int :=
  if coefficient = 0 then .ok 0
  else if Boundary.greatestPower < exponent then giveUp .hugeParameter
  else
    let size := if 0 ≤ exponent then coefficient * tenTo exponent
      else if (Nat.toDigits 10 coefficient).length ≤ exponent.natAbs then 0
      else coefficient / tenTo (-exponent)
    .ok (Double.withSign negative size)

/-- The integer that a value stands for without a column's help; a fraction is cut off. -/
def wholeNumber : Value → Outcome Int
  | .bool b => .ok (if b then 1 else 0)
  | .int n => .ok n
  | .float .nan => giveUp .undefinedInteger
  | .float (.infinite _) => giveUp .infiniteInteger
  | .float x => .ok (x.truncate?.getD 0)
  | .decimal (.finite negative coefficient exponent) => wholePart negative coefficient exponent
  | .decimal (.infinite _) => giveUp .infiniteDecimal
  | .decimal (.nan ..) => giveUp .undefinedDecimal
  | .uuid id => .ok id.toNat
  | .str s => integerIn s (Text.quote s)
  | .bytes content => integerIn (String.ofList (Utf.decodeLossy content)) (Text.quoteBytes content)
  | _ => giveUp .badArgument

def viewsAbove (query : Query) (value : Value) : Outcome Query := do
  let n ← wholeNumber value
  .ok (query.restrictAll [.compare postViews .gt (.int n)])

def latestFirst (query : Query) (_ : Value) : Outcome Query :=
  .ok (query.orderBy ⟨⟨[], idOf post⟩, true⟩)

/-- The callbacks that filters can be declared with. -/
def callbacks : List (String × (Query → Value → Outcome Query)) :=
  [("views_gt_int", viewsAbove), ("id_desc", latestFirst), ("unchanged", fun query _ => .ok query)]

def wholeRow (model : Model) (row : Row) : Value :=
  .object (Store.presentRow model row)

def shownOfProducts : List String :=
  ["id", "name", "order", "price", "weight", "active", "sku", "made_on", "deleted_at", "payload"]

def endpoints : List Endpoint := [
  { path := "/posts"
    model := post
    filters := [("status", { kind := "whereIn" }), ("views", { kind := "whereBetween" }),
      ("day", { kind := "whereDate", column := .str "created_at" }),
      ("q", { kind := "whereLike", column := .str "title" }),
      ("author", { column := .str "author.name" }),
      ("min_views", { callback := some viewsAbove })]
    serialize := wholeRow post },
  { path := "/members"
    model := member
    searchFields := .str Search.allColumns
    serialize := wholeRow member },
  { path := "/products"
    model := product
    serialize := fun row =>
      .object ((Store.presentRow product row).filter (shownOfProducts.contains ·.1)) },
  { path := "/strict-posts"
    model := post
    filters := [("bad", { kind := "whereSoundsLike" }), ("n", { column := .str "views" })]
    serialize := wholeRow post
    options := { strict := true } },
  { path := "/limited-posts"
    model := post
    searchFields := .list [.str "title", .str "author.name"]
    serialize := Store.presentKey post
    options := {
      allowedFields := some ["title", "views", "author.name"]
      defaultPerPage := 2
      maxPerPage := 3 } }]

end GridQuery.Sample
