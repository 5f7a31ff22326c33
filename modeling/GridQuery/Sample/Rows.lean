import GridQuery.Calendar.Iso
import GridQuery.Sample.Schema
import GridQuery.Store.Evaluate

/-!
Rows of the sample schema.
-/

namespace GridQuery.Sample

open Cell

/-- A row with its cells in the order of the table's columns; cells that are not given are null. -/
def row (table : Table) (cells : List Cell) : Row :=
  fun name => (((table.columns.map (·.name)).zip cells).lookup name).getD .null

def rowsOf (table : Table) (rows : List (List Cell)) : List Row :=
  rows.map (row table)

def hundredths (n : Int) : Cell :=
  .real (.ofRatio (n < 0) n.natAbs 100)

def truth (b : Bool) : Cell :=
  .int (if b then 1 else 0)

def companies : List Row := rowsOf company.table [
  [int 1, text "Acme"],
  [int 2, text "Globex"]]

def authors : List Row := rowsOf author.table [
  [int 1, text "Alice", text "alice@acme.test", int 1],
  [int 2, text "Bob", text "bob@globex.test", int 2],
  [int 3, text "Carol", text "carol@example.test", null]]

def profiles : List Row := rowsOf profile.table [
  [int 1, int 1, text "Paris"],
  [int 2, int 2, text "Berlin"]]

def tags : List Row := rowsOf tag.table [
  [int 1, text "python"],
  [int 2, text "sql"],
  [int 3, text "misc"]]

def posts : List Row := rowsOf post.table [
  [int 1, text "Hello World", text "published", int 10, hundredths 450, truth true,
    text "2026-02-25 23:59:59.000000", text "2026-02-25", int 1],
  [int 2, text "100% Pure_Python", text "draft", int 20, hundredths 300, truth false,
    text "2026-02-26 09:30:00.000000", text "2026-02-26", int 2],
  [int 3, text "Zebra notes", text "published", int 30, hundredths 500, truth true,
    text "2026-02-26 23:59:59.000000", text "2026-02-26", int 1],
  [int 4, text "Über café", text "archived", int 40, hundredths 200, truth false,
    text "2026-02-27 00:00:00.000000", text "2026-02-27", int 3],
  [int 5, text "O'Reilly'; DROP TABLE posts;--", text "draft", int 50, hundredths 100, truth false,
    text "2026-03-01 12:00:00.000000", null, null]]

def postTagRows : List Row := rowsOf postTags
  [[int 1, int 1], [int 2, int 1], [int 2, int 2], [int 3, int 3], [int 5, int 2]]

def comments : List Row := rowsOf comment.table [
  [int 1, int 1, text "great", truth true],
  [int 2, int 1, text "great stuff", truth true],
  [int 3, int 2, text "meh", truth false],
  [int 4, int 3, text "a great read", truth false]]

def twoDigits (n : Nat) : String :=
  String.ofList (paddedDecimal 2 n)

def januaryMoment (hours minutes : Nat) : Cell :=
  text ("2026-01-" ++ twoDigits (1 + (8 + hours) / 24) ++ " " ++ twoDigits ((8 + hours) % 24) ++
    ":" ++ twoDigits minutes ++ ":00.000000")

def memberCells (n : Nat) : List Cell :=
  [int n,
    text ((if n % 5 = 0 then "John " else "Member ") ++ naturalText n),
    text ((if n % 7 = 0 then "john" else "user") ++ naturalText n ++ "@example.test"),
    text (if n % 2 = 0 then "active" else "inactive"),
    int (10 + n % 40 : Nat), januaryMoment n 0, januaryMoment n 5]

def members : List Row := rowsOf member.table ((List.range 100).map fun n => memberCells (n + 1))

def products : List Row := rowsOf product.table [
  [int 1, text "Anvil/heavy", int 3, hundredths 1999, hundredths 10025, truth true,
    text "12345678123456781234567812345678", text "2025-12-31", null, text "09:30:00.000000",
    text "1970-01-02 02:00:00.000000", text "\x7b\"a\": 1\x7d", blob [0x61, 0x62, 0x63],
    text "x1"],
  [int 2, text "Rope \\ 50%", int 1, int 5, hundredths 50, truth false,
    text "abcdefabcdefabcdefabcdefabcdefab", text "2026-01-01",
    text "2026-01-02 03:04:05.678900", null, null, text "[1, \"two\", null]"],
  [int 3, text "rope_short", null, null, null, null, null, null, null, null, null, null, null,
    text "x1"],
  [int 4, text "ÀÉ ÷ 日本語", int (-7), hundredths (-50), .real (.ofRatio true 1 1000), truth true,
    text "00000000000000000000000000000000", text "0001-01-01", text "9999-12-31 23:59:59.999999",
    text "00:00:00.000005", text "1970-01-01 00:00:00.000000", text "\"s\"", blob [0x00, 0xFF],
    text ""]]

def productTagRows : List Row := rowsOf productTags [[int 1, int 1], [int 2, int 2], [int 2, int 3]]

def employees : List Row := rowsOf employee.table [
  [int 1, text "Root", null],
  [int 2, text "Mid", int 1],
  [int 3, text "Leaf", int 2]]

def warehouses : List Row := rowsOf warehouse.table [
  [text "eu", int 1, text "Lyon"],
  [text "eu", int 2, text "Gent"],
  [text "us", int 1, text "Reno"]]

def shelves : List Row := rowsOf shelf.table [
  [int 1, text "A", text "eu", int 1],
  [int 2, text "B", text "eu", int 2],
  [int 3, text "C", text "us", int 1],
  [int 4, text "D", null, null],
  [int 5, text "E", text "us", null]]

def database : Database := fun table =>
  ([("companies", companies), ("authors", authors), ("profiles", profiles), ("tags", tags),
    ("posts", posts), ("post_tags", postTagRows), ("comments", comments), ("members", members),
    ("products", products), ("product_tags", productTagRows), ("employees", employees),
    ("warehouses", warehouses), ("shelves", shelves)].lookup table).getD []

end GridQuery.Sample
