import GridQuery.Store.Evaluate
import GridQuery.Store.Names

/-!
Running a query.  The store first wants every parameter in its stored form,
then resolves the names, then takes the parameters; only after that does it
look at rows.
-/

namespace GridQuery.Store

/-- The stored forms of a condition's parameters, in the order of the statement. -/
def parameters? : Condition → Option (List Parameter)
  | .compare field _ value => Parameter.ofValues? field.column.kind [value]
  | .isNull .. | .isTruth .. => some []
  | .between field low high | .span field _ low high => do
      let first ← Parameter.ofValues? field.column.kind [low]
      let second ← Parameter.ofValues? field.column.kind [high]
      some (first ++ second)
  | .among field _ values => Parameter.ofValues? field.column.kind values
  | .like _ _ _ text => some [.ok (.text text)]
  | .related _ inner => parameters? inner

def conditionsOf : Restriction → List Condition
  | .holds condition => [condition]
  | .someOf conditions => conditions

def checkRestrictions (query : Query) : Outcome Unit :=
  match (query.restrictions.flatMap conditionsOf).mapM parameters? with
  | none => giveUp .unstorable
  | some parameters =>
      if !query.restrictions.all (Names.restrictionResolves [[query.model.table.name]]) then
        giveUp .unresolved
      else
        match Parameter.firstFault? parameters.flatten with
        | some fault => giveUp fault
        | none => .ok ()

def checkOrder (query : Query) : Outcome Unit :=
  if query.order.all fun term => Names.keyResolves [[query.model.table.name]] term.key then .ok ()
  else giveUp .unresolved

def count (database : Database) (query : Query) : Outcome Nat := do
  checkRestrictions query
  .ok (select database query).length

def rows (database : Database) (query : Query) : Outcome (List Row) := do
  checkRestrictions query
  checkOrder query
  .ok (sorted database query)

def slice (database : Database) (query : Query) (offset limit : Int) : Outcome (List Row) := do
  let all ← rows database query
  if isWord limit && isWord offset then
    .ok ((all.drop offset.toNat).take limit.toNat)
  else giveUp .hugeParameter

end GridQuery.Store
