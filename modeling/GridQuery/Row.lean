import GridQuery.Criterion
import GridQuery.Column

/-!
# Rows

Rows and their cells as requests see them.  Of several cells of one column the first one counts: a row
looks its cells up in an index, which has the first cell of every column and is made anew for other
cells.
-/

namespace GridQuery

structure Cell where
  columnId : Int
  value : Value
  id : Option Int
  rowId : Option Int
  column : Option Column

def setDefault {α : Type} (key : Int) (value : α) (entries : List (Int × α)) : List (Int × α) :=
  if (entries.lookup key).isSome then entries else entries ++ [(key, value)]

def firstCells (cells : List Cell) : List (Int × Cell) :=
  cells.foldl (fun index cell => setDefault cell.columnId cell index) []

structure Row where
  id : Int
  cells : List Cell
  tableId : Option Int
  createdAt : Option Timestamp
  index : List (Int × Cell) := firstCells cells
  index_eq : index = firstCells cells := by rfl

def Column.toValue (column : Column) : Value := .object [
  ("id", .int column.id),
  ("name", .text column.name),
  ("type", .text column.type),
  ("order", .int column.order),
  ("referenceTableId", .ofInt? column.referenceTable)]

def Cell.toValue (cell : Cell) : Value := .object ([
  ("id", .ofInt? cell.id),
  ("rowId", .ofInt? cell.rowId),
  ("columnId", .int cell.columnId),
  ("value", cell.value)] ++ cell.column.toList.map fun column => ("column", column.toValue))

namespace Row

def cell? (row : Row) (columnId : Int) : Option Cell := row.index.lookup columnId

def withCells (row : Row) (cells : List Cell) : Row where
  id := row.id
  cells
  tableId := row.tableId
  createdAt := row.createdAt

/-- Whether a cell goes before another one, or beside it: cells of unknown columns go last, the others
by the order of their columns. -/
def cellPrecedes (schema : Schema) (a b : Cell) : Bool :=
  let x := schema.place a.columnId
  let y := schema.place b.columnId
  (!x.1 && y.1) || (x.1 == y.1 && x.2 ≤ y.2)

/-- The row with its cells in the order of the schema; cells in one place keep their order. -/
def orderedBy (row : Row) (schema : Schema) : Row :=
  row.withCells (row.cells.mergeSort (cellPrecedes schema))

def toValue (row : Row) (includeCells : Bool) : Value := .object ([
  ("id", .int row.id),
  ("tableId", .ofInt? row.tableId),
  ("createdAt", .ofText? (row.createdAt.map Timestamp.isoText))] ++
  if includeCells then [("cells", .list (row.cells.map Cell.toValue))] else [])

end Row

end GridQuery
