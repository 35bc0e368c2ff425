import GridQuery.Constraint

/-!
# Predicates

Which rows of a table a request asks for: the conditions of its criteria and of its search term, all
of which have to hold.  A predicate keeps the criteria that it was built from.
-/

namespace GridQuery

structure Predicate where
  tableId : Int
  conditions : List Condition
  criteria : List Resolved
  dropped : List Dropped

inductive PredicateFault
  | impasse (impasse : Impasse)
  | period (fault : PeriodFault)

namespace Predicate

def ofResolved (constraints : Constraints) (setting : Setting) (tableId : Int)
    (criteria : List Resolved) (search : String) : Except PeriodFault Predicate := do
  let conditions ← criteria.mapM (constraints.condition? setting)
  return {
    tableId
    conditions := conditions.filterMap id ++ (Condition.search? search).toList
    criteria
    dropped := [] }

def ofCriteria (constraints : Constraints) (setting : Setting) (schema : Schema) (tableId : Int)
    (criteria : List Criterion) (search : String) : Except PredicateFault Predicate :=
  match resolveAll setting.zone schema criteria with
  | .error impasse => .error (.impasse impasse)
  | .ok (resolved, dropped) =>
    match ofResolved constraints setting tableId resolved search with
    | .error fault => .error (.period fault)
    | .ok predicate => .ok { predicate with dropped }

def holds (predicate : Predicate) (tableId : Int) (cells : List (Int × Projections)) : Bool :=
  tableId == predicate.tableId && predicate.conditions.all (Condition.holds cells)

def instants (predicate : Predicate) : List Instant :=
  predicate.conditions.flatMap Condition.instants

end Predicate

end GridQuery
