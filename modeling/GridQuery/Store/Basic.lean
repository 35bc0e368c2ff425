import GridQuery.Calendar.Timestamp
import GridQuery.Number.Reading
import GridQuery.Projection
import GridQuery.Row

/-!
# Stores

A store holds tables, their columns, their rows and the cells of these, and changes one row or cell at
a time.  A cell keeps its value and the projections that were made of it when it was written, by the
type that its column had then.
-/

namespace GridQuery

structure StoredRow where
  id : Int
  tableId : Int
  createdAt : Reading

structure StoredCell where
  id : Int
  rowId : Int
  columnId : Int
  value : Value
  projections : Projections

/-- How the column of values keeps the JSON texts of numbers: as texts, or as numbers.  It then keeps a
whole number of 64 bits exactly, and has its own way of making a double of any other numeral. -/
inductive Keeping
  | texts
  | numbers (double : String → Double)

/-- What a store holds.  A part that is gone is `none`. -/
structure Store where
  keeping : Keeping
  tables : Option (List Int)
  columns : Option (List (Int × Column))
  rows : Option (List StoredRow)
  cells : Option (List StoredCell)
  nextCell : Int

inductive StorePart
  | tables
  | columns
  | rows
  | cells
deriving DecidableEq

/-- The number that a column keeps for a double: the whole number of less than 64 bits that it is, if it
is one. -/
def Double.kept (x : Double) : Value :=
  match x.toInt? with
  | some n => if n.natAbs < 0x8000000000000000 then .int n else .real x
  | none => .real x

namespace Keeping

def nearest : Keeping := .numbers fun text => (Double.ofText? text).getD .nan

def kept : Keeping → Value → Value
  | .numbers double, .int n =>
    if -0x8000000000000000 ≤ n ∧ n < 0x8000000000000000 then .int n else (double (toString n)).kept
  | .numbers double, .real x => if x.isFinite then (double x.text).kept else .real x
  | _, value => value

end Keeping

namespace Store

def emptyOf (keeping : Keeping) : Store := ⟨keeping, some [], some [], some [], some [], 1⟩

def empty : Store := emptyOf .nearest

def column? (store : Store) (id : Int) : Option Column :=
  ((store.columns.getD []).find? (·.2.id == id)).map (·.2)

def columnType (store : Store) (id : Int) : String :=
  ((store.column? id).map (·.type)).getD "text"

def addTable (store : Store) (id : Int) : Store :=
  { store with tables := store.tables.map (· ++ [id]) }

def addColumn (store : Store) (tableId : Int) (column : Column) : Store :=
  { store with columns := store.columns.map (· ++ [(tableId, column)]) }

def setCell (zone : Zone) (store : Store) (rowId columnId : Int) (value : Value) : Store :=
  let cell : StoredCell := {
    id := store.nextCell
    rowId
    columnId
    value := store.keeping.kept value
    projections := .of zone (store.columnType columnId) value }
  let others := fun (c : StoredCell) => !(c.rowId == rowId && c.columnId == columnId)
  { store with
    cells := store.cells.map fun cells => cells.filter others ++ [cell]
    nextCell := store.nextCell + 1 }

def insertRow (zone : Zone) (store : Store) (row : StoredRow) (cells : List (Int × Value)) : Store :=
  cells.foldl (fun store cell => store.setCell zone row.id cell.1 cell.2)
    { store with rows := store.rows.map (· ++ [row]) }

def deleteRow (store : Store) (id : Int) : Store :=
  { store with
    rows := store.rows.map fun rows => rows.filter (·.id != id)
    cells := store.cells.map fun cells => cells.filter (·.rowId != id) }

def drop (store : Store) : StorePart → Store
  | .tables => { store with tables := none }
  | .columns => { store with columns := none }
  | .rows => { store with rows := none }
  | .cells => { store with cells := none }

end Store

end GridQuery
