import GridQuery.Calendar.Iso
import GridQuery.Error
import GridQuery.Json.Writer
import GridQuery.Schema.Basic
import GridQuery.Store.Cell
import GridQuery.Value.Text

/-!
Parameters in the form the store keeps them in.  A value takes the form of its
own kind; a value of no stored kind takes the form of the column it is compared
with.  The form of a list of values is that of its first one.
-/

namespace GridQuery.Store

/-- A value in its stored form, or why the store refuses it when it is handed over. -/
abbrev Parameter := Except Fault Cell

namespace Parameter

def ofDouble (x : Double) : Parameter :=
  .ok (if x = .nan then .null else .real x)

def momentText (time : Moment) : String :=
  String.ofList (time.date.isoChars ++ ' ' :: time.clock.secondsChars ++
    '.' :: paddedDecimal 6 time.clock.micro)

def ofPlain : Value → Parameter
  | .null => .ok .null
  | .bool b => .ok (.int (if b then 1 else 0))
  | .int n => if isWord n then .ok (.int n) else .error .hugeParameter
  | .float x => ofDouble x
  | .str s => .ok (.text s)
  | .bytes content => .ok (.blob content)
  | .date day => .ok (.text day.isoText)
  | .moment time => .ok (.text time.spacedText)
  | .decimal _ | .uuid _ | .list _ | .tuple _ | .set _ | .object _ => .error .unsupportedParameter

def toDouble? : Value → Option Double
  | .bool b => some (.ofInt (if b then 1 else 0))
  | .int n =>
      let x := Double.ofInt n
      if x.isFinite then some x else none
  | .float x => some x
  | .decimal d => d.toDouble?
  | .str s => Double.ofText? s
  | _ => none

def toTruth? : Value → Option Bool
  | .bool b => some b
  | .int n => if n = 0 then some false else if n = 1 then some true else none
  | .float x => if x.isZero then some false else if x = .ofInt 1 then some true else none
  | .decimal d =>
      if d.isZero then some false
      else if d.toDouble? = some (.ofInt 1) then some true else none
  | _ => none

def ofKind? (kind : ColumnKind) (value : Value) : Option Parameter :=
  match kind, value with
  | .json, value => (Json.write? value).map fun text => .ok (.text text)
  | _, .null => some (.ok .null)
  | .text, value | .integer, value | .untyped, value => some (ofPlain value)
  | .real, value | .numeric, value => (toDouble? value).map ofDouble
  | .boolean, value => (toTruth? value).map fun b => .ok (.int (if b then 1 else 0))
  | .uuid, .uuid id => some (.ok (.text id.digits))
  | .date, .date day => some (.ok (.text day.isoText))
  | .date, .moment time => some (.ok (.text time.date.isoText))
  | .moment, .moment time => some (.ok (.text (momentText time)))
  | .moment, .date day => some (.ok (.text (momentText ⟨day, .midnight, none⟩)))
  | .bytes, .bytes content => some (.ok (.blob content))
  | _, _ => none

def kindOf? : Value → Option ColumnKind
  | .bool _ => some .boolean
  | .int _ => some .integer
  | .float _ => some .real
  | .str _ => some .text
  | .bytes _ => some .bytes
  | .decimal _ => some .numeric
  | .uuid _ => some .uuid
  | .date _ => some .date
  | .moment _ => some .moment
  | .null | .list _ | .tuple _ | .set _ | .object _ => none

/-- The kind whose form a value takes beside a column: texts beside byte strings and whatever
stands beside an untyped column take the column's. -/
def kindBeside (column : ColumnKind) (value : Value) : ColumnKind :=
  match column, value with
  | .untyped, _ => .untyped
  | .bytes, .str _ => .bytes
  | _, value => (kindOf? value).getD column

def ofValues? (column : ColumnKind) (values : List Value) : Option (List Parameter) :=
  let kind := match values with
    | [] => column
    | first :: _ => kindBeside column first
  values.mapM (ofKind? kind)

/-- The cells of stored forms; what the store refuses is null. -/
def cells (parameters : List Parameter) : List Cell :=
  parameters.map fun parameter => (parameter.toOption).getD .null

def firstFault? (parameters : List Parameter) : Option Fault :=
  parameters.findSome? fun
    | .ok _ => none
    | .error fault => some fault

end Parameter

def affinityOf : ColumnKind → Cell.Affinity
  | .text | .uuid => .asText
  | .bytes => .asIs
  | _ => .asNumber

end GridQuery.Store
