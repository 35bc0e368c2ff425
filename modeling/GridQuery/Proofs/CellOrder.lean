import GridQuery.Proofs.Lookup
import GridQuery.Proofs.StableSort
import Mathlib

/-!
# The order of cells

A row is changed by giving it other cells or by putting its cells in the order of a schema.  However often
that is done, the row gives the first of its cells of a column, and sorting leaves it the same one: all
cells of a column share a place.

Columns of one declared order share a place as well.  So what a row shows depends on the order in which its
cells were stored, unless the orders of their columns differ.
-/

namespace GridQuery

namespace Row

/-- What can be done to the cells of a row. -/
inductive Change
  | cells (cells : List Cell)
  | order (schema : Schema)

def change (row : Row) : Change → Row
  | .cells cells => row.withCells cells
  | .order schema => row.orderedBy schema

def changed (row : Row) (changes : List Change) : Row := changes.foldl change row

variable {row : Row} {schema : Schema} {a b c : Cell}

theorem change_fields (row : Row) (step : Change) :
    (row.change step).id = row.id ∧ (row.change step).tableId = row.tableId ∧
      (row.change step).createdAt = row.createdAt := by
  cases step with
  | cells cells => exact ⟨rfl, rfl, rfl⟩
  | order schema => exact ⟨rfl, rfl, rfl⟩

theorem changed_fields (row : Row) (changes : List Change) :
    (row.changed changes).id = row.id ∧ (row.changed changes).tableId = row.tableId ∧
      (row.changed changes).createdAt = row.createdAt := by
  induction changes generalizing row with
  | nil => exact ⟨rfl, rfl, rfl⟩
  | cons step changes ih =>
    obtain ⟨hid, htable, hcreated⟩ := ih (row.change step)
    obtain ⟨hid', htable', hcreated'⟩ := row.change_fields step
    exact ⟨hid.trans hid', htable.trans htable', hcreated.trans hcreated'⟩

theorem cellPrecedes_iff : cellPrecedes schema a b = true ↔
    toLex (schema.place a.columnId) ≤ toLex (schema.place b.columnId) := by
  rw [Prod.Lex.toLex_le_toLex, cellPrecedes]
  simp [Bool.lt_iff]

theorem cellPrecedes_trans (a b c : Cell) (hab : cellPrecedes schema a b)
    (hbc : cellPrecedes schema b c) : cellPrecedes schema a c := by
  rw [cellPrecedes_iff] at *
  exact le_trans hab hbc

theorem cellPrecedes_total (a b : Cell) :
    cellPrecedes schema a b || cellPrecedes schema b a := by
  rw [Bool.or_eq_true, cellPrecedes_iff, cellPrecedes_iff]
  exact le_total _ _

theorem perm_cells_orderedBy : (row.orderedBy schema).cells.Perm row.cells :=
  List.mergeSort_perm _ _

theorem pairwise_cells_orderedBy : (row.orderedBy schema).cells.Pairwise (cellPrecedes schema · ·) :=
  List.pairwise_mergeSort cellPrecedes_trans cellPrecedes_total _

theorem filter_cells_orderedBy {p : Cell → Bool}
    (h : ∀ a b, p a → p b → schema.place a.columnId = schema.place b.columnId) :
    (row.orderedBy schema).cells.filter p = row.cells.filter p := by
  apply filter_mergeSort cellPrecedes_trans cellPrecedes_total
  intro a b ha hb
  rw [cellPrecedes_iff, h a b ha hb]

theorem cell?_orderedBy (columnId : Int) : (row.orderedBy schema).cell? columnId = row.cell? columnId := by
  rw [cell?_eq_find?, cell?_eq_find?, ← List.head?_filter, ← List.head?_filter, filter_cells_orderedBy]
  intro a b ha hb
  rw [eq_of_beq ha, eq_of_beq hb]

theorem orderedBy_orderedBy : (row.orderedBy schema).orderedBy schema = row.orderedBy schema :=
  ext_of_cells rfl (List.mergeSort_of_pairwise pairwise_cells_orderedBy) rfl rfl

theorem column?_eq_none_of_le {id other : Int} (h : toLex (schema.place id) ≤ toLex (schema.place other))
    (hnone : schema.column? id = none) : schema.column? other = none := by
  cases hother : schema.column? other with
  | none => rfl
  | some column =>
    simp only [Schema.place, hnone, hother, Prod.Lex.toLex_le_toLex] at h
    rcases h with h | ⟨h, -⟩ <;> exact absurd h (by decide)

/-- However often a row is given other cells or sorts them, it gives the first of its cells of a column, and
remains the row that it is.  Sorting puts its cells by the places of their columns, with those of unknown
columns at the end, and those of one place as they stood before; that changes no cell that the row gives, and
sorting again changes nothing. -/
theorem changed_isConsistent (row : Row) (changes : List Change) :
    (∀ columnId, (row.changed changes).cell? columnId =
      (row.changed changes).cells.find? (·.columnId == columnId)) ∧
    ((row.changed changes).id = row.id ∧ (row.changed changes).tableId = row.tableId ∧
      (row.changed changes).createdAt = row.createdAt) ∧
    ∀ schema, ∃ sorted, (row.changed changes).orderedBy schema = sorted ∧
      sorted.cells.Perm (row.changed changes).cells ∧
      sorted.cells.Pairwise (fun a b =>
        toLex (schema.place a.columnId) ≤ toLex (schema.place b.columnId)) ∧
      sorted.cells.Pairwise (fun a b =>
        schema.column? a.columnId = none → schema.column? b.columnId = none) ∧
      (∀ place, sorted.cells.filter (schema.place ·.columnId == place) =
        (row.changed changes).cells.filter (schema.place ·.columnId == place)) ∧
      (∀ columnId, sorted.cell? columnId = (row.changed changes).cell? columnId) ∧
      sorted.orderedBy schema = sorted := by
  refine ⟨fun columnId => cell?_eq_find? _ columnId, row.changed_fields changes, fun schema => ?_⟩
  have sorted : ((row.changed changes).orderedBy schema).cells.Pairwise (fun a b =>
      toLex (schema.place a.columnId) ≤ toLex (schema.place b.columnId)) :=
    pairwise_cells_orderedBy.imp cellPrecedes_iff.mp
  refine ⟨_, rfl, perm_cells_orderedBy, sorted, sorted.imp column?_eq_none_of_le, fun place => ?_,
    cell?_orderedBy, orderedBy_orderedBy⟩
  apply filter_cells_orderedBy
  intro a b ha hb
  rw [eq_of_beq ha, eq_of_beq hb]

end Row

namespace Schema
variable {columns : List Column} {column : Column} {id : Int}

theorem perm_columns_ofList : (ofList columns).columns.Perm columns := List.mergeSort_perm _ _

theorem precedes_iff {a b : Column} : a.precedes b = true ↔
    a.order < b.order ∨ a.order = b.order ∧ a.id ≤ b.id := by
  simp [Column.precedes]

theorem pairwise_columns_ofList :
    (ofList columns).columns.Pairwise fun a b => a.order ≤ b.order := by
  have sorted : (ofList columns).columns.Pairwise (Column.precedes · ·) := by
    apply List.pairwise_mergeSort
    · intro a b c hab hbc
      rw [precedes_iff] at *
      omega
    · intro a b
      rw [Bool.or_eq_true, precedes_iff, precedes_iff]
      omega
  refine sorted.imp fun h => ?_
  rw [precedes_iff] at h
  omega

section Unique
variable (unique : (columns.map (·.id)).Nodup)
include unique

theorem column?_ofList_eq_some_iff :
    (ofList columns).column? id = some column ↔ column ∈ columns ∧ column.id = id := by
  have perm : (ofList columns).columns.reverse.Perm columns :=
    (List.reverse_perm _).trans perm_columns_ofList
  rw [column?, find?_of_perm unique perm, find?_eq_some_iff_of_keyed unique]

theorem place_of_mem (hmem : column ∈ columns) :
    (ofList columns).place column.id = (false, column.order) := by
  rw [place, (column?_ofList_eq_some_iff unique).mpr ⟨hmem, rfl⟩]

end Unique

end Schema

theorem exists_perm_cons_cons {α : Type} {l : List α} {a b : α} (ha : a ∈ l) (hb : b ∈ l)
    (hne : a ≠ b) : ∃ rest, l.Perm (a :: b :: rest) := by
  classical
  have hb' : b ∈ l.erase a := (List.mem_erase_of_ne hne.symm).mpr hb
  exact ⟨_, (List.perm_cons_erase ha).trans ((List.perm_cons_erase hb').cons a)⟩

namespace Row

def cellsBy (row : Row) (schema : Schema) : List Cell := schema.columns.filterMap (row.cell? ·.id)

section Declared
variable {columns : List Column} (unique : (columns.map (·.id)).Nodup) {cells : List Cell}
  (single : (cells.map (·.columnId)).Nodup)
  (known : ∀ cell ∈ cells, cell.columnId ∈ columns.map (·.id)) {row other : Row}

/-- The columns that a row has cells of are declared at different places. -/
def Apart (columns : List Column) (cells : List Cell) : Prop :=
  ∀ a ∈ columns, ∀ b ∈ columns, a.id ∈ cells.map (·.columnId) → b.id ∈ cells.map (·.columnId) →
    a.order = b.order → a = b

include single in
theorem cell?_eq_some_iff (perm : row.cells.Perm cells) {columnId : Int} {cell : Cell} :
    row.cell? columnId = some cell ↔ cell ∈ cells ∧ cell.columnId = columnId := by
  rw [cell?_eq_find?, find?_of_perm single perm, find?_eq_some_iff_of_keyed single]

include single in
theorem cellsBy_eq_of_perm (perm : row.cells.Perm cells) (perm' : other.cells.Perm cells)
    (schema : Schema) : row.cellsBy schema = other.cellsBy schema := by
  apply List.filterMap_congr
  intro column _
  rw [cell?_eq_find?, cell?_eq_find?, find?_of_perm single perm, find?_of_perm single perm']

include unique single

theorem pairwise_cellsBy (perm : row.cells.Perm cells) :
    (row.cellsBy (.ofList columns)).Pairwise (cellPrecedes (.ofList columns) · ·) := by
  rw [cellsBy, List.pairwise_filterMap]
  refine Schema.pairwise_columns_ofList.imp_of_mem fun {a b} ha hb hab x hx y hy => ?_
  have hplace {column : Column} (hmem : column ∈ (Schema.ofList columns).columns) :=
    Schema.place_of_mem unique (Schema.perm_columns_ofList.mem_iff.mp hmem)
  rw [cellPrecedes_iff, ((cell?_eq_some_iff single perm).mp hx).2,
    ((cell?_eq_some_iff single perm).mp hy).2, hplace ha, hplace hb, Prod.Lex.toLex_le_toLex]
  exact .inr ⟨rfl, hab⟩

include known

theorem cellsBy_perm (perm : row.cells.Perm cells) : (row.cellsBy (.ofList columns)).Perm cells := by
  have perm_ids := @Schema.perm_columns_ofList columns |>.map (·.id)
  have hids : row.cellsBy (.ofList columns) =
      ((Schema.ofList columns).columns.map (·.id)).filterMap row.cell? := by
    rw [List.filterMap_map]
    rfl
  rw [hids]
  refine (List.perm_ext_iff_of_nodup ?_ (List.Nodup.of_map _ single)).mpr fun cell => ?_
  · refine List.Nodup.filterMap (fun id id' cell hcell hcell' => ?_) (perm_ids.nodup_iff.mpr unique)
    exact ((cell?_eq_some_iff single perm).mp hcell).2.symm.trans
      ((cell?_eq_some_iff single perm).mp hcell').2
  · simp only [List.mem_filterMap, cell?_eq_some_iff single perm, perm_ids.mem_iff]
    constructor
    · rintro ⟨id, -, hmem, -⟩
      exact hmem
    · intro hmem
      exact ⟨cell.columnId, known cell hmem, hmem, rfl⟩

theorem eq_of_place_eq (apart : Apart columns cells) {a b : Cell} (ha : a ∈ cells) (hb : b ∈ cells)
    (h : (Schema.ofList columns).place a.columnId = (Schema.ofList columns).place b.columnId) : a = b := by
  obtain ⟨column, hcolumn, hid⟩ := List.mem_map.mp (known a ha)
  obtain ⟨column', hcolumn', hid'⟩ := List.mem_map.mp (known b hb)
  rw [← hid, ← hid', Schema.place_of_mem unique hcolumn, Schema.place_of_mem unique hcolumn'] at h
  have hsame := apart column hcolumn column' hcolumn' (hid ▸ List.mem_map_of_mem ha)
    (hid' ▸ List.mem_map_of_mem hb) (Prod.mk.inj h).2
  exact List.inj_on_of_nodup_map single ha hb (hid.symm.trans ((congrArg _ hsame).trans hid'))

theorem cells_orderedBy_of_apart (apart : Apart columns cells) (perm : row.cells.Perm cells) :
    (row.orderedBy (.ofList columns)).cells = row.cellsBy (.ofList columns) := by
  have hperm := cellsBy_perm unique single known perm
  refine (perm_cells_orderedBy.trans (perm.trans hperm.symm)).eq_of_pairwise (fun a b ha hb hab hba => ?_)
    pairwise_cells_orderedBy (pairwise_cellsBy unique single perm)
  rw [cellPrecedes_iff] at hab hba
  exact eq_of_place_eq unique single known apart ((perm_cells_orderedBy.trans perm).mem_iff.mp ha)
    (hperm.mem_iff.mp hb) (toLex.injective (le_antisymm hab hba))

omit single known in
theorem apart_of_alike (alike : ∀ row other : Row, row.cells.Perm cells → other.cells.Perm cells →
    (row.orderedBy (.ofList columns)).cells = (other.orderedBy (.ofList columns)).cells) :
    Apart columns cells := by
  intro a ha b hb hacell hbcell horder
  obtain ⟨x, hx, hxa⟩ := List.mem_map.mp hacell
  obtain ⟨y, hy, hyb⟩ := List.mem_map.mp hbcell
  have hplace : (Schema.ofList columns).place y.columnId = (Schema.ofList columns).place x.columnId := by
    rw [hxa, hyb, Schema.place_of_mem unique ha, Schema.place_of_mem unique hb, horder]
  have hsame : x = y := by
    by_contra hne
    obtain ⟨rest, perm⟩ := exists_perm_cons_cons hx hy hne
    have hcells := alike ⟨0, x :: y :: rest, none, none, _, rfl⟩ ⟨0, y :: x :: rest, none, none, _, rfl⟩
      perm.symm ((List.Perm.swap x y rest).trans perm.symm)
    have hfilter := congrArg (List.filter fun cell => (Schema.ofList columns).place cell.columnId ==
      (Schema.ofList columns).place x.columnId) hcells
    rw [filter_cells_orderedBy fun c d hc hd => (eq_of_beq hc).trans (eq_of_beq hd).symm,
      filter_cells_orderedBy fun c d hc hd => (eq_of_beq hc).trans (eq_of_beq hd).symm] at hfilter
    simp only [List.filter_cons, hplace, beq_self_eq_true, if_true] at hfilter
    exact hne (List.cons.inj hfilter).1
  exact List.inj_on_of_nodup_map unique ha hb (by rw [← hxa, ← hyb, hsame])

/-- All rows that store the same cells, one of a column at most and each of a column of the schema, show them
in one order exactly if the columns of these cells differ in their declared orders; and exactly then it is
the order of the columns in the schema. -/
theorem orderedBy_declared_tfae : List.TFAE [
    ∀ row other : Row, row.cells.Perm cells → other.cells.Perm cells →
      (row.orderedBy (.ofList columns)).cells = (other.orderedBy (.ofList columns)).cells,
    ∀ row : Row, row.cells.Perm cells →
      (row.orderedBy (.ofList columns)).cells = row.cellsBy (.ofList columns),
    Apart columns cells] := by
  tfae_have 1 → 3 := apart_of_alike unique
  tfae_have 3 → 2 := fun apart row perm => cells_orderedBy_of_apart unique single known apart perm
  tfae_have 2 → 1 := by
    intro declared row other perm perm'
    rw [declared row perm, declared other perm']
    exact cellsBy_eq_of_perm single perm perm' _
  tfae_finish

end Declared

def profileColumns (order : Int) : List Column :=
  [⟨1, "name", "text", 0, none⟩, ⟨2, "mail", "email", order, none⟩]

def profileCells : List Cell :=
  [⟨1, .text "Ada", none, none, none⟩, ⟨2, .text "ada@example.org", none, none, none⟩]

def profileRow : Row where
  id := 1
  cells := profileCells
  tableId := none
  createdAt := none

/-- With the mail address declared first, it is shown first however the cells were stored. -/
theorem orderedBy_declared_tfae_profile :
    let schema := Schema.ofList (profileColumns (-1))
    let row := profileRow
    let other := row.withCells profileCells.reverse
    Apart (profileColumns (-1)) profileCells ∧
      (row.orderedBy schema).cells = (other.orderedBy schema).cells ∧
      (row.orderedBy schema).cells = row.cellsBy schema ∧
      (row.cellsBy schema).map (·.columnId) = [2, 1] := by
  intro schema row other
  have apart : Apart (profileColumns (-1)) profileCells := by
    simp [Apart, profileColumns, profileCells]
  have tfae := @orderedBy_declared_tfae (profileColumns (-1)) (by decide) profileCells (by decide)
    (by decide)
  have alike := (tfae.out 2 0 rfl rfl).mp apart
  have declared := (tfae.out 2 1 rfl rfl).mp apart
  exact ⟨apart, alike row other (.refl _) (List.reverse_perm _), declared row (.refl _), by cbv⟩

/-- With both at one place, the cells are shown as they were stored. -/
theorem orderedBy_declared_fails_profile :
    let schema := Schema.ofList (profileColumns 0)
    let row := profileRow
    let other := row.withCells profileCells.reverse
    other.cells.Perm row.cells ∧ (row.cells.map (·.columnId)).Nodup ∧
      (other.orderedBy schema).cells ≠ (row.orderedBy schema).cells ∧
      (other.orderedBy schema).cells ≠ other.cellsBy schema := by
  intro schema row other
  have hfirst : (row.orderedBy schema).cells.map (·.columnId) = [1, 2] := by cbv
  have hsecond : (other.orderedBy schema).cells.map (·.columnId) = [2, 1] := by cbv
  have hdeclared : (other.cellsBy schema).map (·.columnId) = [1, 2] := by cbv
  refine ⟨List.reverse_perm _, by decide, fun h => ?_, fun h => ?_⟩
  · rw [h, hfirst] at hsecond
    cases hsecond
  · rw [h, hdeclared] at hsecond
    cases hsecond

end Row

end GridQuery
