import GridQuery.Proofs.Lookup
import GridQuery.Proofs.Store.Fetch
import Mathlib.Data.List.Nodup

/-!
# What was written into a store

`Written` says which value each cell of a store was written with, and that the store keeps it under the
type of its own column.  Stores that only change by writing cells, and by adding and deleting rows and
tables, are of this kind.
-/

namespace GridQuery

/-- The values written into the cells of rows, by row and column. -/
abbrev Contents : Type := Int → Int → Option Value

namespace Contents

def write (contents : Contents) (rowId columnId : Int) (value : Value) : Contents :=
  fun row column => if row = rowId ∧ column = columnId then some value else contents row column

def writeRow (contents : Contents) (rowId : Int) (cells : List (Int × Value)) : Contents :=
  cells.foldl (fun contents cell => contents.write rowId cell.1 cell.2) contents

def deleteRow (contents : Contents) (rowId : Int) : Contents :=
  fun row column => if row = rowId then none else contents row column

end Contents

namespace Store

/-- The cells of a store were written with the given values, each under the type of its column. -/
structure Written (zone : Zone) (store : Store) (contents : Contents) : Prop where
  kept : ∀ cell ∈ store.cells.getD [], ∃ value, contents cell.rowId cell.columnId = some value ∧
    cell.value = store.keeping.kept value ∧
    cell.projections = .of zone (store.columnType cell.columnId) value
  present : ∀ rowId columnId value, contents rowId columnId = some value →
    ∃ cell ∈ store.cells.getD [], cell.rowId = rowId ∧ cell.columnId = columnId

section Changes
variable {zone : Zone} {store : Store} {contents : Contents}

theorem written_emptyOf (keeping : Keeping) : (emptyOf keeping).Written zone fun _ _ => none where
  kept := fun _ hmem => absurd hmem List.not_mem_nil
  present := fun _ _ _ h => by cases h

theorem Written.addTable (h : store.Written zone contents) (id : Int) :
    (store.addTable id).Written zone contents := ⟨h.kept, h.present⟩

theorem otherCell_iff {cell : StoredCell} {rowId columnId : Int} :
    (!(cell.rowId == rowId && cell.columnId == columnId)) = true ↔
      ¬ (cell.rowId = rowId ∧ cell.columnId = columnId) := by
  rw [Bool.not_eq_true', ← Bool.not_eq_true, Bool.and_eq_true, beq_iff_eq, beq_iff_eq]

theorem Written.setCell (h : store.Written zone contents) (hcells : store.cells.isSome)
    (rowId columnId : Int) (value : Value) :
    (store.setCell zone rowId columnId value).Written zone (contents.write rowId columnId value) := by
  obtain ⟨cells, hcells⟩ := Option.isSome_iff_exists.mp hcells
  obtain ⟨hkept, hpresent⟩ := h
  simp only [hcells, Option.getD_some] at hkept hpresent
  constructor
  · intro cell hmem
    simp only [Store.setCell, hcells, Option.map_some, Option.getD_some, List.mem_append,
      List.mem_filter, List.mem_singleton] at hmem
    rcases hmem with ⟨hmem, hother⟩ | rfl
    · obtain ⟨old, hold, hvalue, hprojections⟩ := hkept cell hmem
      refine ⟨old, ?_, hvalue, hprojections⟩
      rw [Contents.write, if_neg (otherCell_iff.mp hother)]
      exact hold
    · exact ⟨value, if_pos ⟨rfl, rfl⟩, rfl, rfl⟩
  · intro row column written hwritten
    simp only [Store.setCell, hcells, Option.map_some, Option.getD_some, List.mem_append,
      List.mem_filter, List.mem_singleton]
    by_cases hsame : row = rowId ∧ column = columnId
    · exact ⟨_, .inr rfl, hsame.1.symm, hsame.2.symm⟩
    · rw [Contents.write, if_neg hsame] at hwritten
      obtain ⟨cell, hmem, hrow, hcolumn⟩ := hpresent row column written hwritten
      refine ⟨cell, .inl ⟨hmem, ?_⟩, hrow, hcolumn⟩
      rw [otherCell_iff, hrow, hcolumn]
      exact hsame

theorem isSome_setCell {rowId columnId : Int} {value : Value} (h : store.cells.isSome) :
    (store.setCell zone rowId columnId value).cells.isSome := by
  simpa [Store.setCell] using h

theorem isSome_setCells {rowId : Int} {cells : List (Int × Value)} (h : store.cells.isSome) :
    (cells.foldl (fun store cell => store.setCell zone rowId cell.1 cell.2) store).cells.isSome := by
  induction cells generalizing store with
  | nil => exact h
  | cons cell cells ih => exact ih (isSome_setCell h)

theorem columns_setCells {rowId : Int} {cells : List (Int × Value)} :
    (cells.foldl (fun store cell => store.setCell zone rowId cell.1 cell.2) store).columns =
      store.columns := by
  induction cells generalizing store with
  | nil => rfl
  | cons cell cells ih => exact ih

theorem Written.setCells (h : store.Written zone contents) (hcells : store.cells.isSome) (rowId : Int)
    (cells : List (Int × Value)) :
    (cells.foldl (fun store cell => store.setCell zone rowId cell.1 cell.2) store).Written zone
      (contents.writeRow rowId cells) := by
  induction cells generalizing store contents with
  | nil => exact h
  | cons cell cells ih =>
    exact ih (h.setCell hcells rowId cell.1 cell.2) (isSome_setCell hcells)

theorem Written.insertRow (h : store.Written zone contents) (hcells : store.cells.isSome)
    (row : StoredRow) (cells : List (Int × Value)) :
    (store.insertRow zone row cells).Written zone (contents.writeRow row.id cells) := by
  have hrow : { store with rows := store.rows.map (· ++ [row]) }.Written zone contents :=
    ⟨h.kept, h.present⟩
  exact hrow.setCells hcells row.id cells

theorem Written.deleteRow (h : store.Written zone contents) (id : Int) :
    (store.deleteRow id).Written zone (contents.deleteRow id) := by
  obtain ⟨hkept, hpresent⟩ := h
  have hmem {cell : StoredCell} : cell ∈ (store.deleteRow id).cells.getD [] ↔
      cell ∈ store.cells.getD [] ∧ cell.rowId ≠ id := by
    cases hcells : store.cells <;> simp [Store.deleteRow, hcells]
  constructor
  · intro cell hcell
    obtain ⟨hcell, hrow⟩ := hmem.mp hcell
    obtain ⟨value, hvalue, hrest⟩ := hkept cell hcell
    exact ⟨value, (if_neg hrow).trans hvalue, hrest⟩
  · intro rowId columnId value hvalue
    by_cases hrow : rowId = id
    · rw [Contents.deleteRow, if_pos hrow] at hvalue
      cases hvalue
    · rw [Contents.deleteRow, if_neg hrow] at hvalue
      obtain ⟨cell, hcell, heq, hcolumn⟩ := hpresent rowId columnId value hvalue
      exact ⟨cell, hmem.mpr ⟨hcell, heq ▸ hrow⟩, heq, hcolumn⟩

theorem columnType_addColumn {tableId id : Int} {column : Column} (h : id ≠ column.id) :
    (store.addColumn tableId column).columnType id = store.columnType id := by
  have hne : (column.id == id) = false := by simpa using Ne.symm h
  unfold columnType column? addColumn
  cases hcolumns : store.columns <;> simp [List.find?_append, hne]

theorem Written.addColumn (h : store.Written zone contents) (tableId : Int) (column : Column)
    (fresh : ∀ cell ∈ store.cells.getD [], cell.columnId ≠ column.id) :
    (store.addColumn tableId column).Written zone contents := by
  refine ⟨fun cell hmem => ?_, h.present⟩
  obtain ⟨value, hvalue, hkept, hprojections⟩ := h.kept cell hmem
  refine ⟨value, hvalue, hkept, ?_⟩
  rw [hprojections, columnType_addColumn (fresh cell hmem)]

/-- What a test finds in a column of a row is what it finds in the value written there. -/
theorem Written.any_cellsAt (h : store.Written zone contents) (rowId columnId : Int)
    (p : Projections → Bool) :
    (store.cellsAt rowId).any (fun cell => cell.1 == columnId && p cell.2) =
      (contents rowId columnId).any fun value => p (.of zone (store.columnType columnId) value) := by
  rw [Bool.eq_iff_iff]
  simp only [cellsAt, projected, List.any_map, List.any_filter, List.any_eq_true, Function.comp_apply,
    Bool.and_eq_true, beq_iff_eq, Option.any_eq_true]
  constructor
  · rintro ⟨cell, hmem, hrow, hcolumn, hp⟩
    obtain ⟨value, hvalue, _, hprojections⟩ := h.kept cell hmem
    subst hrow hcolumn
    exact ⟨value, hvalue, hprojections ▸ hp⟩
  · rintro ⟨value, hvalue, hp⟩
    obtain ⟨cell, hmem, rfl, rfl⟩ := h.present rowId columnId value hvalue
    obtain ⟨found, hfound, _, hprojections⟩ := h.kept cell hmem
    obtain rfl := Option.some.inj (hfound.symm.trans hvalue)
    exact ⟨cell, hmem, rfl, rfl, hprojections.symm ▸ hp⟩

end Changes

/-- The stores that come from an empty one by changes, with what is written in them. -/
inductive Grown (zone : Zone) : Store → Contents → Prop
  | emptyOf (keeping : Keeping) : Grown zone (emptyOf keeping) fun _ _ => none
  | addTable {store contents} (id : Int) (h : Grown zone store contents) :
      Grown zone (store.addTable id) contents
  | addColumn {store contents} (tableId : Int) (column : Column) (h : Grown zone store contents)
      (unknown : ∀ entry ∈ store.columns.getD [], entry.2.id ≠ column.id)
      (fresh : ∀ cell ∈ store.cells.getD [], cell.columnId ≠ column.id) :
      Grown zone (store.addColumn tableId column) contents
  | insertRow {store contents} (row : StoredRow) (cells : List (Int × Value))
      (h : Grown zone store contents) :
      Grown zone (store.insertRow zone row cells) (contents.writeRow row.id cells)
  | setCell {store contents} (rowId columnId : Int) (value : Value) (h : Grown zone store contents) :
      Grown zone (store.setCell zone rowId columnId value) (contents.write rowId columnId value)
  | deleteRow {store contents} (id : Int) (h : Grown zone store contents) :
      Grown zone (store.deleteRow id) (contents.deleteRow id)

namespace Grown
variable {zone : Zone} {store : Store} {contents : Contents}

theorem empty : Grown zone empty fun _ _ => none := .emptyOf .nearest

theorem cells_isSome (h : Grown zone store contents) : store.cells.isSome := by
  induction h with
  | emptyOf keeping => rfl
  | addTable id h ih => exact ih
  | addColumn tableId column h unknown fresh ih => exact ih
  | insertRow row cells h ih => exact isSome_setCells ih
  | setCell rowId columnId value h ih => exact isSome_setCell ih
  | deleteRow id h ih => simpa [Store.deleteRow] using ih

theorem keyed (h : Grown zone store contents) :
    ((store.columns.getD []).map (·.2.id)).Nodup := by
  induction h with
  | emptyOf keeping => exact List.nodup_nil
  | addTable id h ih => exact ih
  | @addColumn store contents tableId column h unknown fresh ih =>
    cases hcolumns : store.columns with
    | none => simp [Store.addColumn, hcolumns]
    | some columns =>
      simp only [hcolumns, Option.getD_some] at ih unknown
      simp only [Store.addColumn, hcolumns, Option.map_some, Option.getD_some, List.map_append,
        List.map_cons, List.map_nil, List.nodup_append, List.mem_map, List.mem_singleton]
      refine ⟨ih, List.nodup_singleton _, ?_⟩
      rintro _ ⟨entry, hentry, rfl⟩ _ rfl
      exact unknown entry hentry
  | insertRow row cells h ih =>
    rw [Store.insertRow, columns_setCells]
    exact ih
  | setCell rowId columnId value h ih => exact ih
  | deleteRow id h ih => exact ih

theorem written (h : Grown zone store contents) : store.Written zone contents := by
  induction h with
  | emptyOf keeping => exact written_emptyOf keeping
  | addTable id h ih => exact ih.addTable id
  | addColumn tableId column h unknown fresh ih => exact ih.addColumn tableId column fresh
  | insertRow row cells h ih => exact ih.insertRow h.cells_isSome row cells
  | setCell rowId columnId value h ih => exact ih.setCell h.cells_isSome rowId columnId value
  | deleteRow id h ih => exact ih.deleteRow id

end Grown

theorem column?_of_schema {store : Store} {tableId id : Int} {schema : Schema} {column : Column}
    (keyed : ((store.columns.getD []).map (·.2.id)).Nodup) (h : store.schema tableId = .ok schema)
    (hcolumn : schema.column? id = some column) : store.column? id = some column := by
  unfold Store.schema at h
  obtain ⟨tables, _, h⟩ := Steps.bind_eq_ok_iff.mp h
  obtain ⟨_, _, h⟩ := Steps.bind_eq_ok_iff.mp h
  split at h
  · cases h
  · obtain ⟨columns, hcolumns, h⟩ := Steps.bind_eq_ok_iff.mp h
    rw [part_eq_ok_iff] at hcolumns
    cases h
    simp only [hcolumns, Option.getD_some] at keyed
    have hmem := List.mem_mergeSort.mp (Schema.mem_of_column? hcolumn)
    obtain ⟨entry, hentry, rfl⟩ := List.mem_map.mp hmem
    rw [column?, hcolumns, Option.getD_some, ← Schema.id_of_column? hcolumn,
      find?_of_keyed keyed (List.mem_filter.mp hentry).1]
    rfl

theorem columnType_of_schema {store : Store} {tableId id : Int} {schema : Schema} {column : Column}
    (keyed : ((store.columns.getD []).map (·.2.id)).Nodup) (h : store.schema tableId = .ok schema)
    (hcolumn : schema.column? id = some column) : store.columnType id = column.type := by
  rw [columnType, column?_of_schema keyed h hcolumn]
  rfl

end Store

end GridQuery
