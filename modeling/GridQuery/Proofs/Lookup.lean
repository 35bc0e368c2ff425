import GridQuery.Row
import Mathlib.Data.List.Nodup

/-!
# Looking things up

Of things with keys one is found by its key, and the same one wherever it stands.  A row looks a cell up in
its index and not in its cells: the index is made of the cells and keeps what it has of a column, so the
cell that it gives is the first one of the column.
-/

namespace GridQuery

section Keyed
variable {α : Type} {key : α → Int} {l l' : List α} {a : α}

theorem find?_of_keyed (keyed : (l.map key).Nodup) (hmem : a ∈ l) :
    l.find? (key · == key a) = some a := by
  cases hfind : l.find? (key · == key a) with
  | none => exact absurd (beq_self_eq_true _) (List.find?_eq_none.mp hfind a hmem)
  | some found =>
    have hkey : key found = key a := by simpa using List.find?_some hfind
    rw [List.inj_on_of_nodup_map keyed (List.mem_of_find?_eq_some hfind) hmem hkey]

theorem find?_eq_some_iff_of_keyed (keyed : (l.map key).Nodup) {k : Int} :
    l.find? (key · == k) = some a ↔ a ∈ l ∧ key a = k := by
  constructor
  · intro h
    exact ⟨List.mem_of_find?_eq_some h, by simpa using List.find?_some h⟩
  · rintro ⟨hmem, rfl⟩
    exact find?_of_keyed keyed hmem

theorem find?_of_perm (keyed : (l.map key).Nodup) (perm : l'.Perm l) (k : Int) :
    l'.find? (key · == k) = l.find? (key · == k) := by
  apply Option.ext
  intro a
  rw [find?_eq_some_iff_of_keyed keyed,
    find?_eq_some_iff_of_keyed ((perm.map key).nodup_iff.mpr keyed), perm.mem_iff]

end Keyed

namespace Schema
variable {schema : Schema} {id : Int} {column : Column}

theorem id_of_column? (h : schema.column? id = some column) : column.id = id := by
  have hfound := List.find?_some h
  exact beq_iff_eq.mp hfound

theorem mem_of_column? (h : schema.column? id = some column) : column ∈ schema.columns :=
  List.mem_reverse.mp (List.mem_of_find?_eq_some h)

end Schema

theorem lookup_setDefault {α : Type} (key other : Int) (value : α) (entries : List (Int × α)) :
    (setDefault key value entries).lookup other =
      (entries.lookup other).or (if key = other then some value else none) := by
  unfold setDefault
  by_cases hkey : key = other
  · subst hkey
    cases hfound : entries.lookup key with
    | none => simp [List.lookup_append, hfound]
    | some found => simp [hfound]
  · have hother : (other == key) = false := by simpa using Ne.symm hkey
    rw [if_neg hkey, Option.or_none]
    split
    · rfl
    · simp [List.lookup_append, List.lookup_cons, hother]

/-- An index that cells are added to keeps what it has, and gets their first cells. -/
theorem lookup_foldl_setDefault (cells : List Cell) (index : List (Int × Cell)) (columnId : Int) :
    (cells.foldl (fun index cell => setDefault cell.columnId cell index) index).lookup columnId =
      (index.lookup columnId).or (cells.find? (·.columnId == columnId)) := by
  induction cells generalizing index with
  | nil => simp
  | cons cell cells ih =>
    rw [List.foldl_cons, ih, lookup_setDefault, Option.or_assoc, List.find?_cons]
    by_cases hcell : cell.columnId = columnId
    · simp [hcell]
    · have hother : (cell.columnId == columnId) = false := by simpa using hcell
      simp [hcell, hother]

namespace Row
variable {row other : Row}

theorem cell?_eq_find? (row : Row) (columnId : Int) :
    row.cell? columnId = row.cells.find? (·.columnId == columnId) := by
  rw [cell?, row.index_eq, firstCells, lookup_foldl_setDefault]
  rfl

theorem ext_of_cells (hid : row.id = other.id) (hcells : row.cells = other.cells)
    (htable : row.tableId = other.tableId) (hcreated : row.createdAt = other.createdAt) :
    row = other := by
  obtain ⟨id, cells, tableId, createdAt, index, rfl⟩ := row
  obtain ⟨id', cells', tableId', createdAt', index', rfl⟩ := other
  cases hid
  cases hcells
  cases htable
  cases hcreated
  rfl

end Row

end GridQuery
