import GridQuery.Condition

/-!
The rows that a subquery ranges over.  A subquery over a relation ranges over
its target, joined with the association table if there is one; the table of
the parent is left to the query around it, unless a join needs it.
-/

namespace GridQuery

inductive Source where
  | table (name : String)
  | join (left : Source) (name : String) (on : List KeyPair)
  deriving DecidableEq, Repr

namespace Source

def tables : Source → List String
  | table name => [name]
  | join left name _ => left.tables ++ [name]

def mentioned (keys : List KeyPair) : List String :=
  keys.flatMap fun pair => [pair.1.table, pair.2.table]

/-- A source and the tables that key pairs mention beside it, without the table `outer` where it
stands alone. -/
def withMentioned (source : Source) (keys : List KeyPair) (outer : String) : List Source :=
  let beside := (mentioned keys).eraseDups.filter fun name => !source.tables.contains name
  (source :: beside.map table).filter (· ≠ table outer)

end Source

namespace Linkage

/-- The rows of the target. -/
def source (link : Linkage) : Source :=
  match link.association with
  | none => .table link.target.table.name
  | some association => .join (.table link.target.table.name) association.table association.keys

/-- What a test for a linked row ranges over. -/
def sources (link : Linkage) : List Source :=
  link.source.withMentioned link.keys link.parent.table.name

end Linkage

namespace SortKey

/-- The last target, joined with the parent of every relation but the first. -/
def chain (target : String) (later : List Linkage) : Source :=
  later.foldr (fun link source => .join source link.parent.table.name link.keys) (.table target)

/-- What the subquery of a sort key ranges over, and the keys that tie it to the row that is
sorted; a key without relations has no subquery. -/
def subquery? (key : SortKey) : Option (List Source × List KeyPair) :=
  match key.hops with
  | [] => none
  | first :: later =>
      let target := ((later.getLast?).getD first).target.table.name
      some ((chain target later).withMentioned first.keys first.parent.table.name, first.keys)

end SortKey

end GridQuery
