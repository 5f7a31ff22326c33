import GridQuery.Source
import GridQuery.Store.Like
import GridQuery.Store.Parameter
import GridQuery.Text.Wildcard

/-!
Evaluating conditions on stored rows.  A condition is true, false or unknown,
and only a true one selects a row.  A column is read from the nearest row of
its table that is in sight: a subquery sees its own rows before those of the
query around it.
-/

namespace GridQuery

abbrev Truth := Option Bool

namespace Truth

def not (a : Truth) : Truth := a.map (!·)

def and : Truth → Truth → Truth
  | some false, _ | _, some false => some false
  | some true, some true => some true
  | _, _ => none

def or : Truth → Truth → Truth
  | some true, _ | _, some true => some true
  | some false, some false => some false
  | _, _ => none

def negateIf (negated : Bool) (a : Truth) : Truth :=
  if negated then a.not else a

def isTrue (a : Truth) : Bool := a == some true

theorem isTrue_and (a b : Truth) : (a.and b).isTrue = (a.isTrue && b.isTrue) := by
  rcases a with _ | _ | _ <;> rcases b with _ | _ | _ <;> rfl

theorem isTrue_or (a b : Truth) : (a.or b).isTrue = (a.isTrue || b.isTrue) := by
  rcases a with _ | _ | _ <;> rcases b with _ | _ | _ <;> rfl

end Truth

abbrev Row := String → Cell

abbrev Database := String → List Row

/-- One row of each table that a query ranges over. -/
abbrev Scope := List (String × Row)

/-- The scopes of a subquery and of the queries around it, the nearest first. -/
abbrev Environment := List Scope

namespace Environment

def row? (environment : Environment) (table : String) : Option Row :=
  environment.findSome? (·.lookup table)

def cell (environment : Environment) (field : Field) : Cell :=
  match environment.row? field.table with
  | some row => row field.column.name
  | none => .null

def ofRow (table : String) (row : Row) : Environment :=
  [[(table, row)]]

end Environment

def Comparison.test : Comparison → Ordering → Bool
  | .eq, order => order == .eq
  | .ne, order => order != .eq
  | .lt, order => order == .lt
  | .le, order => order != .gt
  | .gt, order => order == .gt
  | .ge, order => order != .lt

namespace Store

def compareCells (comparison : Comparison) (a b : Cell) : Truth :=
  (Cell.order? a b).map comparison.test

/-- The affinity by which two columns are compared: only numbers are read out of each other. -/
def sharedAffinity (a b : Cell.Affinity) : Cell.Affinity :=
  if a = .asNumber ∨ b = .asNumber then .asNumber else .asIs

def keyHolds (environment : Environment) (pair : KeyPair) : Bool :=
  let affinity := sharedAffinity (affinityOf pair.1.column.kind) (affinityOf pair.2.column.kind)
  (compareCells .eq ((environment.cell pair.1).read affinity)
    ((environment.cell pair.2).read affinity)).isTrue

def keysHold (environment : Environment) (keys : List KeyPair) : Bool :=
  keys.all (keyHolds environment)

def sourceRows (database : Database) (environment : Environment) : Source → List Scope
  | .table name => (database name).map fun row => [(name, row)]
  | .join left name on =>
      (sourceRows database environment left).flatMap fun scope =>
        ((database name).map fun row => scope ++ [(name, row)]).filter fun joined =>
          keysHold (joined :: environment) on

def scopes (database : Database) (environment : Environment) : List Source → List Scope
  | [] => [[]]
  | source :: rest =>
      (sourceRows database environment source).flatMap fun scope =>
        (scopes database environment rest).map (scope ++ ·)

def compareWith (kind : ColumnKind) (comparison : Comparison) (cell : Cell) (value : Value) :
    Truth :=
  let cells := Parameter.cells ((Parameter.ofValues? kind [value]).getD [])
  compareCells comparison cell ((cells.headD .null).read (affinityOf kind))

/-- A cell equals one of some others; a null among them leaves open what is not found. -/
def isAmong (cell : Cell) : List Cell → Truth
  | [] => some false
  | other :: rest => (compareCells .eq cell other).or (isAmong cell rest)

def amongValues (kind : ColumnKind) (cell : Cell) (values : List Value) : Truth :=
  let cells := Parameter.cells ((Parameter.ofValues? kind values).getD [])
  isAmong cell (cells.map (·.read (affinityOf kind)))

/-- The pattern that finds a text at an anchor: its wildcards are literal. -/
def patternOf (anchor : Anchor) (text : String) : String :=
  let before := if anchor = .start then [] else ['%']
  let after := if anchor = .finish then [] else ['%']
  String.ofList (before ++ Text.escapeWildcards text.toList ++ after)

def likeCell (anchor : Anchor) (text : String) (cell : Cell) : Truth :=
  cell.castText?.map (isLike (patternOf anchor text))

/-- The truth of a condition on the rows in sight. -/
def truth (database : Database) (environment : Environment) : Condition → Truth
  | .compare field comparison value =>
      compareWith field.column.kind comparison (environment.cell field) value
  | .isNull field negated => some ((environment.cell field == .null) != negated)
  | .isTruth field negated b =>
      let constant := (Cell.int (if b then 1 else 0)).read (affinityOf field.column.kind)
      compareCells (if negated then .ne else .eq) (environment.cell field) constant
  | .between field low high =>
      let cell := environment.cell field
      (compareWith field.column.kind .ge cell low).and (compareWith field.column.kind .le cell high)
  | .span field negated low high =>
      let cell := environment.cell field
      ((compareWith field.column.kind .ge cell low).and
        (compareWith field.column.kind .lt cell high)).negateIf negated
  | .among field negated values =>
      (amongValues field.column.kind (environment.cell field) values).negateIf negated
  | .like field negated anchor text =>
      (likeCell anchor text (environment.cell field)).negateIf negated
  | .related link inner =>
      some ((scopes database environment link.sources).any fun scope =>
        keysHold (scope :: environment) link.keys &&
          (truth database (scope :: environment) inner).isTrue)

def holds (database : Database) (environment : Environment) (condition : Condition) : Bool :=
  (truth database environment condition).isTrue

def meets (database : Database) (environment : Environment) : Restriction → Bool
  | .holds condition => holds database environment condition
  | .someOf conditions => conditions.any (holds database environment)

/-- The cell that a row is sorted by; behind relations it is that of the first linked row. -/
def sortCell (database : Database) (environment : Environment) (key : SortKey) : Cell :=
  match key.subquery? with
  | none => environment.cell key.field
  | some (sources, keys) =>
      let candidates := (scopes database environment sources).filter fun scope =>
        keysHold (scope :: environment) keys
      match candidates with
      | [] => .null
      | scope :: _ => Environment.cell (scope :: environment) key.field

def notAfter (database : Database) (table : String) : List SortTerm → Row → Row → Bool
  | [], _, _ => true
  | term :: rest, a, b =>
      let cellOf (row : Row) := sortCell database (.ofRow table row) term.key
      let order := Cell.order (cellOf a) (cellOf b)
      match if term.descending then order.swap else order with
      | .lt => true
      | .gt => false
      | .eq => notAfter database table rest a b

def select (database : Database) (query : Query) : List Row :=
  (database query.model.table.name).filter fun row =>
    query.restrictions.all (meets database (.ofRow query.model.table.name row))

def sorted (database : Database) (query : Query) : List Row :=
  (select database query).mergeSort (notAfter database query.model.table.name query.order)

end Store

end GridQuery
