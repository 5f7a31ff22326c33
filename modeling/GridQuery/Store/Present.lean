import GridQuery.Json.Reader
import GridQuery.Schema.Basic
import GridQuery.Store.Evaluate

/-!
Stored rows as values.  A row is presented as an object of its columns, with
days and moments as texts and decimals as doubles.
-/

namespace GridQuery.Store

/-- The wall clock of a stored moment with a `T`; a fraction of zeros is left out. -/
def momentForm (stored : String) : String :=
  let cs := stored.toList.map fun c => if c = ' ' then 'T' else c
  let whole := cs.takeWhile (· ≠ '.')
  let fraction := cs.dropWhile (· ≠ '.')
  String.ofList (if fraction.all (fun c => c == '.' || c == '0') then whole else cs)

def plainValue : Cell → Value
  | .null => .null
  | .int n => .int n
  | .real x => .float x
  | .text s => .str s
  | .blob content => .bytes content

def present (kind : ColumnKind) (cell : Cell) : Value :=
  match kind, cell with
  | .real, .int n | .numeric, .int n => .float (.ofInt n)
  | .boolean, .int n => .bool (n != 0)
  | .uuid, .text s => .str (Uuid.grouped s.toList)
  | .moment, .text s => .str (momentForm s)
  | .json, .text s => ((Json.ofText s).toOption).getD .null
  | _, cell => plainValue cell

def presentRow (model : Model) (row : Row) : Members :=
  model.table.columns.map fun column => (column.label, present column.kind (row column.name))

def presentKey (model : Model) (row : Row) : Value :=
  match model.keys with
  | [field] => plainValue (row field.column.name)
  | fields => .list (fields.map fun field => plainValue (row field.column.name))

end GridQuery.Store
