import GridQuery.Predicate
import GridQuery.RowOrder
import GridQuery.Store.Basic

/-!
# Fetching rows

What a store answers about its tables: their columns, and how many and which rows a predicate asks
for.  It fails where a part of it is gone, and on what it cannot be given: instants outside the years
of the calendar and whole numbers of more than 64 bits.  The number of conditions is no limit here: a
store is taken to be given any number of them at once, though a real one has a greatest depth of what it
is asked, such as a thousand.
-/

namespace GridQuery

inductive StoreFault
  | failed
  | tableNotFound (id : Int)
  | integerTooLarge
deriving DecidableEq

def StoreFault.integerMessage : String := "Python int too large to convert to SQLite INTEGER"

def fitsStore (n : Int) : Bool := -0x8000000000000000 ≤ n && n < 0x8000000000000000

/-- Whether a row goes before another one, or beside it.  Rows made at one time come by id. -/
def RowOrder.precedes (order : RowOrder) (a b : StoredRow) : Bool :=
  match order.field with
  | .id => if order.descending then b.id ≤ a.id else a.id ≤ b.id
  | .createdAt =>
    if a.createdAt = b.createdAt then a.id ≤ b.id
    else if order.descending then b.createdAt.micros < a.createdAt.micros
    else a.createdAt.micros < b.createdAt.micros

/-- The elements behind the first `offset` ones, at most `limit` of them.  Negative offsets count as
none, negative limits as no limit. -/
def window {α : Type} (offset : Int) (limit : Option Int) (items : List α) : List α :=
  let rest := items.drop offset.toNat
  match limit with
  | some n => if n < 0 then rest else rest.take n.toNat
  | none => rest

namespace Store

def part {α : Type} : Option α → Except StoreFault α
  | some a => .ok a
  | none => .error .failed

def checkIntegers (numbers : List Int) : Except StoreFault Unit :=
  if numbers.all fitsStore then .ok () else .error .integerTooLarge

def schema (store : Store) (tableId : Int) : Except StoreFault Schema := do
  let tables ← part store.tables
  checkIntegers [tableId]
  if tableId ∉ tables then .error (.tableNotFound tableId)
  else
    let columns ← part store.columns
    return .ofList ((columns.filter (·.1 == tableId)).map (·.2))

def projected (cells : List StoredCell) (rowId : Int) : List (Int × Projections) :=
  (cells.filter (·.rowId == rowId)).map fun cell => (cell.columnId, cell.projections)

/-- The rows that a predicate asks for, if the store can be given it together with some numbers.  It is
assumed to take any number of conditions. -/
def select (store : Store) (predicate : Predicate) (numbers : List Int) :
    Except StoreFault (List StoredRow) := do
  if !predicate.instants.all (·.toUtc?.isSome) then .error .failed
  else
    let rows ← part store.rows
    let cells ← if predicate.conditions.isEmpty then .ok [] else part store.cells
    checkIntegers (predicate.tableId :: numbers)
    return rows.filter fun row => predicate.holds row.tableId (projected cells row.id)

def count (store : Store) (predicate : Predicate) : Except StoreFault Nat :=
  (store.select predicate []).map List.length

def countTable (store : Store) (tableId : Int) : Except StoreFault Nat := do
  let rows ← part store.rows
  checkIntegers [tableId]
  return (rows.filter (·.tableId == tableId)).length

def cellView (store : Store) (cell : StoredCell) : Cell where
  columnId := cell.columnId
  value := cell.value
  id := some cell.id
  rowId := some cell.rowId
  column := store.column? cell.columnId

def rowView (store : Store) (cells : List StoredCell) (row : StoredRow) : Row where
  id := row.id
  cells := (cells.filter (·.rowId == row.id)).map store.cellView
  tableId := some row.tableId
  createdAt := some (Instant.ofUtc row.createdAt).toTimestamp

def fetch (store : Store) (predicate : Predicate) (order : RowOrder) (offset : Int)
    (limit : Option Int) (includeCells : Bool) : Except StoreFault (List Row) := do
  let rows ← store.select predicate (offset :: limit.toList)
  let rows := window offset limit (rows.mergeSort order.precedes)
  let cells ← if includeCells && !rows.isEmpty then part store.cells else .ok []
  return rows.map (store.rowView cells)

end Store

end GridQuery
