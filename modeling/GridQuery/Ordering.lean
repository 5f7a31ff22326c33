import GridQuery.Condition
import GridQuery.FieldPath

/-!
Requested orders.  Behind a relation path the key is the column of the one row
that the path leads to, so every relation on it must be single-valued.
-/

namespace GridQuery

structure SortClause where
  field : String
  descending : Bool := false
  deriving DecidableEq, Repr

def SortKey.ofPath (path : FieldPath) : Except QueryError SortKey :=
  match path.hops.find? (!·.singleValued) with
  | some link => .error (.sort (.manyValued link.name) path.name)
  | none => .ok ⟨path.hops, path.field⟩

/-- What cannot be found cannot be sorted by. -/
def QueryError.asSortError (name : String) : QueryError → QueryError
  | .field problem wanted => .sort (.field problem wanted) name
  | error => error

def SortTerm.ofClause (registry : Registry) (options : QueryOptions) (model : Model)
    (clause : SortClause) : Except QueryError SortTerm := do
  let path ← (FieldPath.resolveName registry options model (Text.strip clause.field)).mapError
    (QueryError.asSortError clause.field)
  let key ← SortKey.ofPath path
  .ok ⟨key, clause.descending⟩

end GridQuery
