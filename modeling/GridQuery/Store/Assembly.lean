import GridQuery.Page
import GridQuery.Store.Fetch

/-!
# Assembling pages

A page is counted and fetched as the store sees it, and then the residual pass goes over its rows.  The
number of rows that it tells is the number before that.
-/

namespace GridQuery

def Capabilities.engine (capabilities : Capabilities) : ResidualEngine where
  operators := capabilities.residualOperators
  registered := Residual.evaluable
  supported := by
    obtain ⟨regex⟩ := capabilities
    cases regex <;> decide

inductive AssemblyFault
  | notPositive
  | store (fault : StoreFault)
  | impasse (impasse : Impasse)

def AssemblyFault.notPositiveMessage : String := "page and page_size must be positive"

structure PageChoice where
  page : Int
  pageSize : Int
  order : RowOrder
  includeCells : Bool

namespace PageChoice

def offset (choice : PageChoice) : Int := (choice.page - 1) * choice.pageSize

end PageChoice

namespace Store

def arranged (schema : Schema) (includeCells : Bool) (rows : List Row) : List Row :=
  rows.map fun row => if includeCells then row.orderedBy schema else row.withCells []

/-- A page of the rows that a predicate asks for and that pass some criteria.  The residual pass reads
cells even where none are shown. -/
def assemble (store : Store) (engine : ResidualEngine) (zone : Zone) (predicate : Predicate)
    (criteria : List Criterion) (schema : Schema) (choice : PageChoice) :
    Except AssemblyFault Page :=
  if choice.page < 1 ∨ choice.pageSize < 1 then .error .notPositive
  else do
    let total ← (store.count predicate).mapError .store
    let selected ← (if choice.includeCells then .ok []
      else engine.select zone schema criteria).mapError .impasse
    let rows ← (store.fetch predicate choice.order choice.offset (some choice.pageSize)
      (choice.includeCells || !selected.isEmpty)).mapError .store
    let kept ← (engine.keep zone schema criteria rows).mapError .impasse
    return {
      rows := arranged schema choice.includeCells kept
      total
      page := choice.page
      pageSize := choice.pageSize }

end Store

end GridQuery
