import GridQuery.Response
import GridQuery.Store.Assembly

/-!
# Serving requests

A request is served in steps: the columns of its table, its filters resolved against them, the
predicate, the page, and the size of the table.  The first step that fails decides.  Without pages, the
survivors of some criteria are the rows that the store has for their predicate, less those that the
residual pass takes out.
-/

namespace GridQuery

inductive ServingFault
  | request (fault : RequestFault)
  | impasse (impasse : Impasse)
  | period (fault : PeriodFault)
  | assembly (fault : AssemblyFault)
  | quotient (fault : QuotientFault)

namespace ServingFault

def ofStore (fault : StoreFault) : ServingFault := .assembly (.store fault)

def ofPredicate : PredicateFault → ServingFault
  | .impasse found => .impasse found
  | .period fault => .period fault

end ServingFault

namespace RowRequest

def choice (request : RowRequest) : PageChoice where
  page := request.page
  pageSize := request.pageSize
  order := request.order
  includeCells := request.includeCells

end RowRequest

namespace Store

def serve (store : Store) (setting : Setting) (request : RowRequest) :
    Except ServingFault Response := do
  let schema ← (store.schema request.tableId).mapError .ofStore
  let (resolved, _) ← (resolveAll setting.zone schema request.filters).mapError .impasse
  let predicate ← (Predicate.ofResolved .standard setting request.tableId resolved
    request.search).mapError .period
  let page ← (store.assemble setting.capabilities.engine setting.zone predicate request.filters schema
    request.choice).mapError .assembly
  let tableSize ← (store.countTable request.tableId).mapError .ofStore
  return { request, page, validFilters := resolved.length, tableSize, queryTime := none }

def survivors (store : Store) (setting : Setting) (schema : Schema) (tableId : Int) (search : String)
    (order : RowOrder) (criteria : List Criterion) : Except ServingFault (List Row) := do
  let predicate ← (Predicate.ofCriteria .standard setting schema tableId criteria search).mapError
    .ofPredicate
  let rows ← (store.fetch predicate order 0 none true).mapError .ofStore
  (setting.capabilities.engine.keep setting.zone schema criteria rows).mapError .impasse

end Store

end GridQuery
