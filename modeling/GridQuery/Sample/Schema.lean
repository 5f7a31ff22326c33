import GridQuery.Schema.Linkage

/-!
A sample schema: a blog with its authors, some members, products, employees,
and warehouses with a key of two columns.
-/

namespace GridQuery.Sample

def column (label : String) (kind : ColumnKind) : Column :=
  ⟨label, label, kind, false⟩

def key (label : String) (kind : ColumnKind) : Column :=
  ⟨label, label, kind, true⟩

def company : Model where
  name := "Company"
  table := ⟨"companies", [key "id" .integer, column "name" .text]⟩

def author : Model where
  name := "Author"
  table := ⟨"authors", [key "id" .integer, column "name" .text, column "email" .text,
    column "company_id" .integer]⟩

def profile : Model where
  name := "Profile"
  table := ⟨"profiles", [key "id" .integer, column "author_id" .integer, column "city" .text]⟩

def tag : Model where
  name := "Tag"
  table := ⟨"tags", [key "id" .integer, column "name" .text]⟩

def post : Model where
  name := "Post"
  table := ⟨"posts", [key "id" .integer, column "title" .text, column "status" .text,
    column "views" .integer, column "rating" .real, column "published" .boolean,
    column "created_at" .moment, column "published_on" .date, column "author_id" .integer]⟩
  searchable := ["title", "status"]

def comment : Model where
  name := "Comment"
  table := ⟨"comments", [key "id" .integer, column "post_id" .integer, column "body" .text,
    column "approved" .boolean]⟩

def member : Model where
  name := "Member"
  table := ⟨"members", [key "id" .integer, column "name" .text, column "email" .text,
    column "status" .text, column "age" .integer, column "created_at" .moment,
    column "updated_at" .moment]⟩

def product : Model where
  name := "Product"
  table := ⟨"products", [key "id" .integer, ⟨"name", "full_name", .text, false⟩,
    column "order" .integer, column "price" .numeric, column "weight" .real,
    column "active" .boolean, column "sku" .uuid, column "made_on" .date,
    column "deleted_at" .moment, column "opens" .time, column "lapse" .interval,
    column "payload" .json, column "blob" .bytes, column "raw" .untyped]⟩
  searchable := ["name", "tags.name"]

def employee : Model where
  name := "Employee"
  table := ⟨"employees", [key "id" .integer, column "name" .text, column "manager_id" .integer]⟩

def warehouse : Model where
  name := "Warehouse"
  table := ⟨"warehouses", [key "region" .text, key "code" .integer, column "title" .text]⟩

def shelf : Model where
  name := "Shelf"
  table := ⟨"shelves", [key "id" .integer, column "label" .text, column "wh_region" .text,
    column "wh_code" .integer]⟩

def postTags : Table :=
  ⟨"post_tags", [key "post_id" .integer, key "tag_id" .integer]⟩

def productTags : Table :=
  ⟨"product_tags", [key "product_id" .integer, key "tag_id" .integer]⟩

def field (table : Table) (label : String) (kind : ColumnKind) : Field :=
  ⟨table.name, column label kind⟩

def idOf (model : Model) : Field :=
  ⟨model.table.name, key "id" .integer⟩

def reference (model : Model) (label : String) : Field :=
  field model.table label .integer

def refersTo (name : String) (parent : Model) (label : String) (target : Model) : Linkage :=
  ⟨name, parent, target, .oneOrZero, [(reference parent label, idOf target)], none⟩

def referredBy (name : String) (parent target : Model) (label : String)
    (cardinality : Cardinality) : Linkage :=
  ⟨name, parent, target, cardinality, [(idOf parent, reference target label)], none⟩

def taggedBy (name : String) (parent : Model) (table : Table) (label : String)
    (cardinality : Cardinality) : Linkage where
  name := name
  parent := parent
  target := tag
  cardinality := cardinality
  keys := [(idOf parent, ⟨table.name, key label .integer⟩)]
  association := some ⟨table.name, [(idOf tag, ⟨table.name, key "tag_id" .integer⟩)]⟩

/-- The region and the code of a shelf's warehouse, beside those of the warehouse. -/
def shelfKeys : List (Field × Field) :=
  [(field shelf.table "wh_region" .text, ⟨warehouse.table.name, key "region" .text⟩),
    (field shelf.table "wh_code" .integer, ⟨warehouse.table.name, key "code" .integer⟩)]

def relations : List Linkage := [
  refersTo "company" author "company_id" company,
  referredBy "profile" author profile "author_id" .oneOrZero,
  referredBy "posts" author post "author_id" .many,
  refersTo "author" profile "author_id" author,
  refersTo "author" post "author_id" author,
  referredBy "comments" post comment "post_id" .many,
  taggedBy "tags" post postTags "post_id" .many,
  refersTo "post" comment "post_id" post,
  taggedBy "tags" product productTags "product_id" .many,
  taggedBy "main_tag" product productTags "product_id" .oneOrZero,
  refersTo "manager" employee "manager_id" employee,
  referredBy "reports" employee employee "manager_id" .many,
  ⟨"shelves", warehouse, shelf, .many, shelfKeys.map Prod.swap, none⟩,
  ⟨"warehouse", shelf, warehouse, .oneOrZero, shelfKeys, none⟩]

def schema : Schema where
  models := [company, author, profile, tag, post, comment, member, product, employee, warehouse,
    shelf]
  associations := [postTags, productTags]
  relations := relations

end GridQuery.Sample
