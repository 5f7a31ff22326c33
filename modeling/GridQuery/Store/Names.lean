import GridQuery.Source
import GridQuery.Error

/-!
Which names a query resolves.  A column must belong to a table in sight, and
the nearest scope that holds the table must hold it once.
-/

namespace GridQuery.Names

abbrev Tables := List (List String)

/-- A name that stands for one table. -/
def resolves : Tables → String → Bool
  | [], _ => false
  | scope :: outer, table =>
      if scope.contains table then scope.count table == 1 else resolves outer table

def fieldResolves (tables : Tables) (field : Field) : Bool :=
  resolves tables field.table

def keysResolve (tables : Tables) (keys : List KeyPair) : Bool :=
  keys.all fun pair => fieldResolves tables pair.1 && fieldResolves tables pair.2

def sourceResolves (tables : Tables) : Source → Bool
  | .table _ => true
  | .join left _ on => sourceResolves tables left && keysResolve tables on

/-- The tables in sight of a subquery over some sources. -/
def within (sources : List Source) (tables : Tables) : Tables :=
  sources.flatMap Source.tables :: tables

def subqueryResolves (tables : Tables) (sources : List Source) (keys : List KeyPair) : Bool :=
  sources.all (sourceResolves (within sources tables)) && keysResolve (within sources tables) keys

def conditionResolves (tables : Tables) : Condition → Bool
  | .compare field .. | .isNull field .. | .isTruth field .. | .between field .. | .span field ..
  | .among field .. | .like field .. => fieldResolves tables field
  | .related link inner =>
      subqueryResolves tables link.sources link.keys &&
        conditionResolves (within link.sources tables) inner

def restrictionResolves (tables : Tables) : Restriction → Bool
  | .holds condition => conditionResolves tables condition
  | .someOf conditions => conditions.all (conditionResolves tables)

def keyResolves (tables : Tables) (key : SortKey) : Bool :=
  match key.subquery? with
  | none => fieldResolves tables key.field
  | some (sources, keys) =>
      subqueryResolves tables sources keys && fieldResolves (within sources tables) key.field

end GridQuery.Names
