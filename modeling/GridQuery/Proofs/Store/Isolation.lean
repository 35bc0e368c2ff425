import GridQuery.Proofs.Lookup
import GridQuery.Proofs.Store.Fetch
import GridQuery.Store.Serving
import Mathlib

/-!
# Tables are isolated from each other

What a store holds of one table is the table itself, its columns, its rows and the cells of these.
Every step of a request for a table gives the same on that part alone as on the whole store, and so
does the request: nothing of another table shows in an answer or in a fault.
-/

namespace GridQuery

namespace Store

def rowsOf (store : Store) (tableId : Int) : List StoredRow :=
  (store.rows.getD []).filter (·.tableId == tableId)

def hasRow (store : Store) (tableId rowId : Int) : Bool :=
  (store.rowsOf tableId).any (·.id == rowId)

def only (store : Store) (tableId : Int) : Store where
  keeping := empty.keeping
  tables := store.tables.map fun tables => tables.filter (· == tableId)
  columns := store.columns.map fun columns => columns.filter (·.1 == tableId)
  rows := store.rows.map fun rows => rows.filter (·.tableId == tableId)
  cells := store.cells.map fun cells => cells.filter fun cell => store.hasRow tableId cell.rowId
  nextCell := empty.nextCell

/-- The ids of columns are keys of the store, and the cells of a table's rows are in its columns. -/
structure SelfContained (store : Store) (tableId : Int) : Prop where
  keyed : ((store.columns.getD []).map (·.2.id)).Nodup
  own : ∀ cell ∈ store.cells.getD [], store.hasRow tableId cell.rowId →
    ∃ column, (tableId, column) ∈ store.columns.getD [] ∧ column.id = cell.columnId

variable {store : Store} {tableId : Int} {predicate : Predicate} {numbers : List Int}

theorem schema_only : (store.only tableId).schema tableId = store.schema tableId := by
  obtain ⟨_, tables, columns, _, _, _⟩ := store
  cases tables with
  | none => rfl
  | some tables =>
    cases columns <;> simp [schema, only, part, bind, Except.bind]

theorem countTable_only : (store.only tableId).countTable tableId = store.countTable tableId := by
  obtain ⟨_, _, _, rows, _, _⟩ := store
  cases rows <;> simp [countTable, only, part, bind, Except.bind]

section Rows
variable {row : StoredRow}

theorem hasRow_of_mem (hmem : row ∈ store.rows.getD []) (htable : row.tableId = tableId) :
    store.hasRow tableId row.id := by
  apply List.any_eq_true.mpr
  exact ⟨row, List.mem_filter.mpr ⟨hmem, beq_iff_eq.mpr htable⟩, beq_self_eq_true _⟩

theorem filter_cells_only {rowId : Int} (hrow : store.hasRow tableId rowId)
    (cells : List StoredCell) :
    (cells.filter fun cell => store.hasRow tableId cell.rowId).filter (·.rowId == rowId) =
      cells.filter (·.rowId == rowId) := by
  rw [List.filter_filter]
  apply List.filter_congr
  intro cell _
  by_cases heq : cell.rowId = rowId
  · simp [heq, hrow]
  · simp [heq]

theorem holds_only (htable : predicate.tableId = tableId) (hmem : row ∈ store.rows.getD [])
    (cells : List StoredCell) :
    (predicate.holds row.tableId
        (projected (cells.filter fun cell => store.hasRow tableId cell.rowId) row.id) &&
      row.tableId == tableId) = predicate.holds row.tableId (projected cells row.id) := by
  by_cases heq : row.tableId = tableId
  · rw [projected, projected, filter_cells_only (hasRow_of_mem hmem heq), beq_iff_eq.mpr heq,
      Bool.and_true]
  · have hother : (row.tableId == predicate.tableId) = false := by simp [htable, heq]
    simp [Predicate.holds, hother]

end Rows

theorem select_only (htable : predicate.tableId = tableId) :
    (store.only tableId).select predicate numbers = store.select predicate numbers := by
  unfold select
  split
  · rfl
  · cases hrows : store.rows with
    | none => simp [only, hrows, part, bind, Except.bind]
    | some rows =>
      have hfilter (cells : List StoredCell) :
          (rows.filter (·.tableId == tableId)).filter (fun row => predicate.holds row.tableId
            (projected (cells.filter fun cell => store.hasRow tableId cell.rowId) row.id)) =
          rows.filter fun row => predicate.holds row.tableId (projected cells row.id) := by
        rw [List.filter_filter]
        apply List.filter_congr
        intro row hmem
        exact holds_only htable (by rw [hrows]; exact hmem) cells
      by_cases hnone : predicate.conditions.isEmpty
      · have hfilter := hfilter []
        simp only [List.filter_nil] at hfilter
        simp [only, hrows, part, hnone, hfilter, bind, Except.bind]
      · cases hcells : store.cells with
        | none => simp [only, hrows, hcells, part, hnone, bind, Except.bind]
        | some cells => simp [only, hrows, hcells, part, hnone, hfilter, bind, Except.bind]

theorem count_only (htable : predicate.tableId = tableId) :
    (store.only tableId).count predicate = store.count predicate := by
  rw [count, count, select_only htable]

theorem column?_eq_of_mem {column : Column} (keyed : ((store.columns.getD []).map (·.2.id)).Nodup)
    (hmem : (tableId, column) ∈ store.columns.getD []) : store.column? column.id = some column := by
  rw [column?, find?_of_keyed keyed hmem]
  rfl

theorem cellView_only (contained : store.SelfContained tableId) {cell : StoredCell}
    (hmem : cell ∈ store.cells.getD []) (hrow : store.hasRow tableId cell.rowId) :
    (store.only tableId).cellView cell = store.cellView cell := by
  obtain ⟨column, hcolumn, hid⟩ := contained.own cell hmem hrow
  have hcolumns : (store.only tableId).columns.getD [] =
      (store.columns.getD []).filter (·.1 == tableId) := by
    cases hcolumns : store.columns <;> simp [only, hcolumns]
  have hwhole : store.column? cell.columnId = some column := by
    rw [← hid]
    exact column?_eq_of_mem contained.keyed hcolumn
  have hpart : (store.only tableId).column? cell.columnId = some column := by
    have hmem : (tableId, column) ∈ (store.only tableId).columns.getD [] := by
      rw [hcolumns]
      exact List.mem_filter.mpr ⟨hcolumn, beq_self_eq_true _⟩
    rw [← hid]
    apply column?_eq_of_mem _ hmem
    rw [hcolumns]
    exact contained.keyed.sublist (List.filter_sublist.map _)
  simp only [cellView, hwhole, hpart]

theorem rowView_only (contained : store.SelfContained tableId) {row : StoredRow}
    (hmem : row ∈ store.rows.getD []) (htable : row.tableId = tableId) {cells : List StoredCell}
    (hcells : ∀ cell ∈ cells, cell ∈ store.cells.getD []) :
    (store.only tableId).rowView (cells.filter fun cell => store.hasRow tableId cell.rowId) row =
      store.rowView cells row := by
  have hrow := hasRow_of_mem hmem htable
  refine Row.ext_of_cells rfl ?_ rfl rfl
  simp only [rowView, filter_cells_only hrow]
  apply List.map_congr_left
  intro cell hcell
  obtain ⟨hcell, hid⟩ := List.mem_filter.mp hcell
  rw [beq_iff_eq] at hid
  apply cellView_only contained (hcells cell hcell)
  rw [hid]
  exact hrow

theorem mem_of_mem_window {α : Type} {a : α} {offset : Int} {limit : Option Int} {items : List α}
    (h : a ∈ window offset limit items) : a ∈ items := by
  unfold window at h
  cases limit with
  | none => exact List.mem_of_mem_drop h
  | some n =>
    dsimp only at h
    split at h
    · exact List.mem_of_mem_drop h
    · exact List.mem_of_mem_drop (List.mem_of_mem_take h)

theorem tableId_of_mem_matching {row : StoredRow} (hmem : row ∈ store.matching predicate) :
    row ∈ store.rows.getD [] ∧ row.tableId = predicate.tableId := by
  obtain ⟨hrow, hholds⟩ := List.mem_filter.mp hmem
  rw [Predicate.holds, Bool.and_eq_true] at hholds
  exact ⟨hrow, eq_of_beq hholds.1⟩

theorem fetch_only (contained : store.SelfContained tableId) (htable : predicate.tableId = tableId)
    {order : RowOrder} {offset : Int} {limit : Option Int} {includeCells : Bool} :
    (store.only tableId).fetch predicate order offset limit includeCells =
      store.fetch predicate order offset limit includeCells := by
  unfold fetch
  rw [select_only htable]
  cases hselect : store.select predicate (offset :: limit.toList) with
  | error fault => rfl
  | ok found =>
    have hviews (cells : List StoredCell) (hcells : ∀ cell ∈ cells, cell ∈ store.cells.getD []) :
        (window offset limit (found.mergeSort order.precedes)).map ((store.only tableId).rowView
            (cells.filter fun cell => store.hasRow tableId cell.rowId)) =
          (window offset limit (found.mergeSort order.precedes)).map (store.rowView cells) := by
      apply List.map_congr_left
      intro row hmem
      obtain ⟨_, rfl⟩ := select_eq_ok_iff.mp hselect
      obtain ⟨hrow, heq⟩ := tableId_of_mem_matching (List.mem_mergeSort.mp (mem_of_mem_window hmem))
      exact rowView_only contained hrow (heq.trans htable) hcells
    dsimp only [bind, Except.bind]
    split
    · have hcells : (store.only tableId).cells =
          store.cells.map fun cells => cells.filter fun cell => store.hasRow tableId cell.rowId := rfl
      rw [hcells]
      cases hcells : store.cells with
      | none => rfl
      | some cells => exact congrArg Except.ok (hviews cells (by simp [hcells]))
    · exact congrArg Except.ok (hviews [] (by simp))

theorem assemble_only (contained : store.SelfContained tableId)
    (htable : predicate.tableId = tableId) {engine : ResidualEngine} {zone : Zone}
    {criteria : List Criterion} {schema : Schema} {choice : PageChoice} :
    (store.only tableId).assemble engine zone predicate criteria schema choice =
      store.assemble engine zone predicate criteria schema choice := by
  simp only [assemble, count_only htable, fetch_only contained htable]

theorem serve_only {request : RowRequest} (contained : store.SelfContained request.tableId)
    (setting : Setting) :
    (store.only request.tableId).serve setting request = store.serve setting request := by
  unfold serve
  rw [schema_only, countTable_only]
  apply Steps.bind_congr
  intro schema _
  apply Steps.bind_congr
  intro outcome _
  apply Steps.bind_congr
  intro predicate hpredicate
  rw [assemble_only contained]
  obtain ⟨conditions, _, hpredicate⟩ :=
    Steps.bind_eq_ok_iff.mp (Steps.mapError_eq_ok_iff.mp hpredicate)
  cases hpredicate
  rfl

/-- Stores that hold the same of a table answer every request for it alike, by the same response or
by the same fault. -/
theorem serve_isolated {store other : Store} {request : RowRequest}
    (contained : store.SelfContained request.tableId)
    (otherContained : other.SelfContained request.tableId)
    (agree : store.only request.tableId = other.only request.tableId) (setting : Setting) :
    store.serve setting request = other.serve setting request := by
  rw [← serve_only contained, agree, serve_only otherContained]

def guestBook : Store :=
  let row (id : Int) (time : Fin 6) : StoredRow := ⟨id, 7, ⟨time, by omega⟩⟩
  ((((empty.addTable 7).addColumn 7 ⟨1, "name", "text", 0, none⟩).insertRow .utc (row 3 5)
    [(1, .text "Anna")]).insertRow .utc (row 1 5) [(1, .text "Ben")])

/-- The same two guests beside notes, one of which has the name of a guest. -/
def guestBookAndNotes : Store :=
  let row (id : Int) : StoredRow := ⟨id, 8, ⟨0, by omega⟩⟩
  ((((guestBook.addTable 8).addColumn 8 ⟨2, "note", "text", 0, none⟩).insertRow .utc (row 4)
    [(2, .text "Anna was here")]).insertRow .utc (row 2) [(2, .text "no one came")])

theorem serve_isolated_guestBook :
    let setting : Setting := ⟨.utc, ⟨⟨0, by decide⟩, none⟩, ⟨true⟩⟩
    let request : RowRequest :=
      ⟨7, 1, 20, true, "", [⟨1, "contains", .text "n", .null, none, none, by decide, by decide⟩],
        "createdAt", true, by decide, by decide, by decide⟩
    guestBook.rows ≠ guestBookAndNotes.rows ∧
      (guestBook.serve setting request).isOk ∧
      guestBook.serve setting request = guestBookAndNotes.serve setting request := by
  intro setting request
  have hguests : guestBook.SelfContained 7 := by
    constructor
    · decide
    · intro cell hmem _
      have hids : ∀ cell ∈ guestBook.cells.getD [], cell.columnId = 1 := by decide
      exact ⟨⟨1, "name", "text", 0, none⟩, by decide, (hids cell hmem).symm⟩
  have hnotes : guestBookAndNotes.SelfContained 7 := by
    constructor
    · decide
    · intro cell hmem hrow
      have hids : ∀ cell ∈ guestBookAndNotes.cells.getD [],
          guestBookAndNotes.hasRow 7 cell.rowId → cell.columnId = 1 := by decide
      exact ⟨⟨1, "name", "text", 0, none⟩, by decide, (hids cell hmem hrow).symm⟩
  have hagree : guestBook.only 7 = guestBookAndNotes.only 7 := by cbv
  have hanswers : (guestBook.serve setting request).isOk := by cbv
  refine ⟨?_, hanswers, @serve_isolated _ _ request hguests hnotes hagree setting⟩
  intro hrows
  cases congrArg (fun rows => (rows.getD []).length) hrows

end Store

end GridQuery
