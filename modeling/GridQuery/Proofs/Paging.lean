import GridQuery.Proofs.Residual
import GridQuery.Proofs.Store.Order
import Mathlib

/-!
# Paging

The pages of a request are the windows of one list, the rows of the table that satisfy the predicate
in the order asked for, each less the rows that the residual pass takes out.  They count the rows of
that list, and one after the other they give it back.
-/

namespace GridQuery

def Descends (sortOrder : Option String) : Prop :=
  ∃ text, sortOrder = some text ∧ String.ofList (Text.lower text.toList) = "desc"

/-- A row goes before another one under the names of a field and a direction. -/
def SortsBefore (sortBy : String) (sortOrder : Option String) (a b : StoredRow) : Prop :=
  if sortBy = "createdAt" then
    (a.createdAt.micros = b.createdAt.micros ∧ a.id < b.id) ∨
      (Descends sortOrder ∧ b.createdAt.micros < a.createdAt.micros) ∨
      (¬ Descends sortOrder ∧ a.createdAt.micros < b.createdAt.micros)
  else if sortBy = "id" then
    (Descends sortOrder ∧ b.id < a.id) ∨ (¬ Descends sortOrder ∧ a.id < b.id)
  else a.id < b.id

namespace RowOrder
variable {sortBy : String} {sortOrder : Option String} {a b : StoredRow}

theorem descending_iff :
    ((sortOrder.map fun s => String.ofList (Text.lower s.toList)) == some "desc") = true ↔
      Descends sortOrder := by
  cases sortOrder <;> simp [Descends]

theorem sortsBefore_of_precedes (hne : a.id ≠ b.id)
    (h : (RowOrder.ofNames sortBy sortOrder).precedes a b) : SortsBefore sortBy sortOrder a b := by
  unfold ofNames at h
  by_cases hdesc : Descends sortOrder
  · have hflag := descending_iff.mpr hdesc
    split at h
    · rw [hflag, precedes_id_iff, if_pos rfl] at h
      exact .inl ⟨hdesc, by omega⟩
    · rw [hflag, precedes_createdAt_iff, if_pos rfl] at h
      rcases h with ⟨heq, hid⟩ | h
      · exact .inl ⟨heq, by omega⟩
      · exact .inr (.inl ⟨hdesc, h⟩)
    · rename_i hid hcreated
      rw [precedes_id_iff, if_neg Bool.false_ne_true] at h
      rw [SortsBefore, if_neg hcreated, if_neg hid]
      omega
  · have hflag := Bool.eq_false_iff.mpr (mt descending_iff.mp hdesc)
    split at h
    · rw [hflag, precedes_id_iff, if_neg Bool.false_ne_true] at h
      exact .inr ⟨hdesc, by omega⟩
    · rw [hflag, precedes_createdAt_iff, if_neg Bool.false_ne_true] at h
      rcases h with ⟨heq, hid⟩ | h
      · exact .inl ⟨heq, by omega⟩
      · exact .inr (.inr ⟨hdesc, h⟩)
    · rename_i hid hcreated
      rw [precedes_id_iff, if_neg Bool.false_ne_true] at h
      rw [SortsBefore, if_neg hcreated, if_neg hid]
      omega

end RowOrder

section Windows
variable {α : Type} {size : Nat} {l : List α}

theorem flatMap_windows (n : Nat) :
    (List.range' 1 n).flatMap (fun k => (l.drop ((k - 1) * size)).take size) = l.take (n * size) := by
  induction n with
  | zero => simp
  | succ n ih =>
    rw [List.range'_1_concat, List.flatMap_append, ih, Nat.add_one_mul, List.take_add]
    simp

theorem flatMap_windows_eq (hsize : 1 ≤ size) :
    (List.range' 1 ((l.length + size - 1) / size)).flatMap
      (fun k => (l.drop ((k - 1) * size)).take size) = l := by
  rw [flatMap_windows]
  apply List.take_of_length_le
  have hdiv := Nat.div_add_mod (l.length + size - 1) size
  have hmod := Nat.mod_lt (l.length + size - 1) hsize
  rw [Nat.mul_comm] at hdiv
  omega

end Windows

namespace Store
variable {store : Store} {engine : ResidualEngine} {predicate : Predicate} {schema : Schema}
  {choice : PageChoice}

def shown (store : Store) (schema : Schema) (includeCells : Bool) (row : StoredRow) : Row :=
  if includeCells then (store.rowView (store.cells.getD []) row).orderedBy schema
  else store.rowView [] row

/-- A row is left by the residual pass over some criteria. -/
def survives (store : Store) (engine : ResidualEngine) (zone : Zone) (schema : Schema)
    (criteria : List Criterion) (row : StoredRow) : Bool :=
  criteria.all (engine.keeps zone schema (store.rowView (store.cells.getD []) row))

/-- A page of a list of rows: its window of the list, less what the residual pass takes out. -/
def pageOf (store : Store) (engine : ResidualEngine) (zone : Zone) (schema : Schema)
    (criteria : List Criterion) (includeCells : Bool) (listed : List StoredRow) (size page : Nat) :
    Page where
  rows := (((listed.drop ((page - 1) * size)).take size).filter
    (store.survives engine zone schema criteria)).map (store.shown schema includeCells)
  total := listed.length
  page
  pageSize := size

theorem flatMap_pageOf {zone : Zone} {criteria : List Criterion} {includeCells : Bool}
    {listed : List StoredRow} {size : Nat} (hsize : 1 ≤ size) :
    (List.range' 1 ((listed.length + size - 1) / size)).flatMap (fun page =>
        (store.pageOf engine zone schema criteria includeCells listed size page).rows) =
      (listed.filter (store.survives engine zone schema criteria)).map
        (store.shown schema includeCells) := by
  simp only [pageOf]
  rw [← List.map_flatMap, ← List.filter_flatMap, flatMap_windows_eq hsize]

theorem shown_id {includeCells : Bool} {row : StoredRow} :
    (store.shown schema includeCells row).id = row.id := by
  cases includeCells <;> rfl

theorem arranged_true {rows : List StoredRow} :
    arranged schema true (rows.map (store.rowView (store.cells.getD []))) =
      rows.map (store.shown schema true) := by
  rw [arranged, List.map_map]
  rfl

theorem arranged_false {rows : List StoredRow} {cells : List StoredCell} :
    arranged schema false (rows.map (store.rowView cells)) =
      rows.map (store.shown schema false) := by
  rw [arranged, List.map_map]
  rfl

theorem window_page (rows : List StoredRow) {page size : Nat} :
    window (((page : Int) - 1) * size) (some (size : Int)) rows =
      (rows.drop ((page - 1) * size)).take size := by
  have hoffset : (((page : Int) - 1) * size).toNat = (page - 1) * size := by
    cases page with
    | zero => simp [Int.toNat_of_nonpos]
    | succ page => simp; norm_cast
  simp only [window, hoffset]
  rw [if_neg (by omega), Int.toNat_natCast]

section Assembly
variable {zone : Zone} {criteria : List Criterion}

/-- Whether the cells of a page are read: they are shown, or the residual pass has something to evaluate. -/
def needsCells (engine : ResidualEngine) (zone : Zone) (schema : Schema) (criteria : List Criterion)
    (includeCells : Bool) : Bool :=
  includeCells || !(engine.criteria (criteria.filterMap (Criterion.resolved? zone schema))).isEmpty

theorem arranged_filter_keeps {includeCells : Bool} {rows : List StoredRow} :
    arranged schema includeCells ((rows.map (store.rowView
        (store.loaded (needsCells engine zone schema criteria includeCells)))).filter fun row =>
          criteria.all (engine.keeps zone schema row)) =
      (rows.filter (store.survives engine zone schema criteria)).map
        (store.shown schema includeCells) := by
  by_cases hnone : engine.criteria (criteria.filterMap (Criterion.resolved? zone schema)) = []
  · have hall (row : Row) : criteria.all (engine.keeps zone schema row) = true := by
      rw [← ResidualEngine.all_passes_eq_all_keeps, hnone]
      rfl
    have hsurvive : rows.filter (store.survives engine zone schema criteria) = rows :=
      List.filter_eq_self.mpr fun row _ => hall _
    rw [List.filter_eq_self.mpr fun row _ => hall row, hsurvive]
    cases includeCells with
    | true => exact arranged_true
    | false => exact arranged_false
  · have hneeded : needsCells engine zone schema criteria includeCells = true := by
      simp [needsCells, hnone]
    rw [hneeded, loaded, if_pos rfl, List.filter_map]
    cases includeCells with
    | true => exact arranged_true
    | false => exact arranged_false

theorem assemble_eq (hpage : 1 ≤ choice.page) (hsize : 1 ≤ choice.pageSize)
    (all : AllResolve zone schema criteria) :
    store.assemble engine zone predicate criteria schema choice = Except.mapError .store (do
      let total ← store.count predicate
      let rows ← store.fetch predicate choice.order choice.offset (some choice.pageSize)
        (needsCells engine zone schema criteria choice.includeCells)
      return ⟨arranged schema choice.includeCells
        (rows.filter fun row => criteria.all (engine.keeps zone schema row)), total, choice.page,
        choice.pageSize⟩) := by
  have hpositive : ¬ (choice.page < 1 ∨ choice.pageSize < 1) := by omega
  have hkeep (rows : List Row) : engine.keep zone schema criteria rows =
      .ok (rows.filter fun row => criteria.all (engine.keeps zone schema row)) :=
    ResidualEngine.keep_eq_ok_iff.mpr ⟨all, rfl⟩
  simp only [assemble, if_neg hpositive, ResidualEngine.select_eq_ok all, hkeep, needsCells]
  cases store.count predicate with
  | error fault => rfl
  | ok total =>
    cases choice.includeCells with
    | true =>
      simp only [if_true, Bool.true_or, Except.mapError, bind, Except.bind]
      cases store.fetch predicate choice.order choice.offset (some choice.pageSize) true <;> rfl
    | false =>
      simp only [Bool.false_eq_true, if_false, Bool.false_or, Except.mapError, bind, Except.bind]
      cases store.fetch predicate choice.order choice.offset (some choice.pageSize)
        (!(engine.criteria (criteria.filterMap (Criterion.resolved? zone schema))).isEmpty) <;> rfl

theorem assemble_eq_ok (hpage : 1 ≤ choice.page) (hsize : 1 ≤ choice.pageSize)
    (all : AllResolve zone schema criteria)
    (nofault : ∀ fault, store.assemble engine zone predicate criteria schema choice ≠
      .error (.store fault)) :
    ∃ total rows, store.count predicate = .ok total ∧
      store.fetch predicate choice.order choice.offset (some choice.pageSize)
        (needsCells engine zone schema criteria choice.includeCells) = .ok rows ∧
      store.assemble engine zone predicate criteria schema choice = .ok {
        rows := arranged schema choice.includeCells
          (rows.filter fun row => criteria.all (engine.keeps zone schema row))
        total
        page := choice.page
        pageSize := choice.pageSize } := by
  rw [assemble_eq hpage hsize all] at nofault ⊢
  cases hcount : store.count predicate with
  | error fault =>
    rw [hcount] at nofault
    exact absurd rfl (nofault fault)
  | ok total =>
    cases hfetch : store.fetch predicate choice.order choice.offset (some choice.pageSize)
      (needsCells engine zone schema criteria choice.includeCells) with
    | error fault =>
      rw [hcount, hfetch] at nofault
      exact absurd rfl (nofault fault)
    | ok rows => exact ⟨total, rows, rfl, rfl, rfl⟩

end Assembly

section Pages
variable {constraints : Constraints} {setting : Setting} {tableId : Int} {criteria : List Criterion}
  {search : String} {order : RowOrder} {includeCells : Bool} {page size : Nat}
variable (hbuilt : Predicate.ofCriteria constraints setting schema tableId criteria search =
  .ok predicate)
include hbuilt

theorem assemble_eq_window (hpage : 1 ≤ page) (hsize : 1 ≤ size)
    (nofault : ∀ fault, store.assemble engine setting.zone predicate criteria schema
      ⟨page, size, order, includeCells⟩ ≠ .error (.store fault)) :
    store.assemble engine setting.zone predicate criteria schema ⟨page, size, order, includeCells⟩ =
      .ok (store.pageOf engine setting.zone schema criteria includeCells
        (store.listing predicate order) size page) := by
  have all := (Predicate.builds_iff.mp (Predicate.ofCriteria_eq_ok_iff.mp hbuilt).1).1
  obtain ⟨total, rows, hcount, hfetch, hok⟩ := assemble_eq_ok
    (Int.ofNat_le.mpr hpage) (Int.ofNat_le.mpr hsize) all nofault
  obtain ⟨_, rfl⟩ := count_eq_ok_iff.mp hcount
  obtain ⟨_, _, rfl⟩ := fetch_eq_ok_iff.mp hfetch
  rw [hok, arranged_filter_keeps]
  simp only [PageChoice.offset, window_page, pageOf, (@listing_perm store predicate order).length_eq]

theorem mapM_assemble_eq {n : Nat} (hsize : 1 ≤ size)
    (nofault : ∀ page : Nat, 1 ≤ page → page ≤ n → ∀ fault, store.assemble engine setting.zone predicate
      criteria schema ⟨page, size, order, includeCells⟩ ≠ .error (.store fault)) :
    (List.range' 1 n).mapM (fun page : Nat => store.assemble engine setting.zone predicate
        criteria schema ⟨page, size, order, includeCells⟩) =
      .ok ((List.range' 1 n).map (store.pageOf engine setting.zone schema criteria includeCells
        (store.listing predicate order) size)) := by
  rw [Steps.mapM_eq_ok_iff, List.map_map]
  apply List.map_congr_left
  intro page hmem
  obtain ⟨hpage, hlast⟩ := List.mem_range'_1.mp hmem
  exact assemble_eq_window hbuilt hpage hsize (nofault page hpage (by omega))

/-- Paging loses and duplicates nothing.  With ids as keys, the rows that satisfy the predicate have one
order under the names of a field and a direction; every page that the store can answer counts all of
them and shows its window of them, and all pages together show what survives the residual pass, each
row once. -/
theorem assemble_isPaging (engine : ResidualEngine)
    (keyed : ((store.rows.getD []).map (·.id)).Nodup) (hsize : 1 ≤ size) (sortBy : String)
    (sortOrder : Option String) (includeCells : Bool) :
    ∃ listed : List StoredRow,
      listed.Perm (store.matching predicate) ∧
      listed.Pairwise (SortsBefore sortBy sortOrder) ∧
      (∀ page : Nat, 1 ≤ page →
        (∀ fault, store.assemble engine setting.zone predicate criteria schema
          ⟨page, size, .ofNames sortBy sortOrder, includeCells⟩ ≠ .error (.store fault)) →
        store.assemble engine setting.zone predicate criteria schema
            ⟨page, size, .ofNames sortBy sortOrder, includeCells⟩ =
          .ok (store.pageOf engine setting.zone schema criteria includeCells listed size page)) ∧
      ((∀ page : Nat, 1 ≤ page → page ≤ (listed.length + size - 1) / size →
        ∀ fault, store.assemble engine setting.zone predicate criteria schema
          ⟨page, size, .ofNames sortBy sortOrder, includeCells⟩ ≠ .error (.store fault)) →
        ∃ pages,
          (List.range' 1 ((listed.length + size - 1) / size)).mapM (fun page : Nat =>
            store.assemble engine setting.zone predicate criteria schema
              ⟨page, size, .ofNames sortBy sortOrder, includeCells⟩) = .ok pages ∧
          pages.flatMap (·.rows) =
            (listed.filter (store.survives engine setting.zone schema criteria)).map
              (store.shown schema includeCells) ∧
          ((pages.flatMap (·.rows)).map (·.id)).Nodup) := by
  have hkeys : ((store.listing predicate (.ofNames sortBy sortOrder)).map (·.id)).Nodup :=
    (listing_perm.map _).nodup_iff.mpr (keyed.sublist (List.filter_sublist.map _))
  refine ⟨store.listing predicate (.ofNames sortBy sortOrder), listing_perm, ?_, ?_, ?_⟩
  · refine (listing_pairwise.and (List.pairwise_map.mp hkeys)).imp ?_
    exact fun h => RowOrder.sortsBefore_of_precedes h.2 h.1
  · exact fun page hpage nofault => assemble_eq_window hbuilt hpage hsize nofault
  · intro nofault
    refine ⟨_, mapM_assemble_eq hbuilt hsize nofault, ?_, ?_⟩
    · rw [List.flatMap_map, flatMap_pageOf hsize]
    · rw [List.flatMap_map, flatMap_pageOf hsize, List.map_map]
      have hids : (fun row : Row => row.id) ∘ store.shown schema includeCells =
          fun row : StoredRow => row.id := funext fun row => shown_id
      rw [hids]
      exact hkeys.sublist (List.filter_sublist.map _)

end Pages

/-- Three guests on two pages, two of whom came at one time. -/
def arrivals : Store :=
  let row (id : Int) (time : Fin 10) : StoredRow := ⟨id, 7, ⟨time, by omega⟩⟩
  ((((empty.addTable 7).addColumn 7 ⟨1, "name", "text", 0, none⟩).insertRow .utc (row 3 5)
    [(1, .text "Anna")]).insertRow .utc (row 1 5) [(1, .text "Ben")]).insertRow .utc (row 2 9)
    [(1, .text "Mo")]

def arrivalsNamed : Predicate where
  tableId := 7
  conditions := [.someCell 1 .hasText]
  criteria := [⟨⟨1, "contains", .text "n", .null, none, none, Int.zero_lt_one, by decide⟩,
    ⟨1, "name", "text", 0, none⟩, .contains, .text "n", .null⟩]
  dropped := []

def arrivalsPage (page : Nat) : Except AssemblyFault Page :=
  arrivals.assemble (Capabilities.engine ⟨true⟩) .utc arrivalsNamed
    (arrivalsNamed.criteria.map (·.criterion)) ⟨[⟨1, "name", "text", 0, none⟩]⟩
    ⟨page, (2 : Nat), .ofNames "createdAt" (some "DESC"), false⟩

theorem assemble_isPaging_arrivals :
    let contains : Criterion := ⟨1, "contains", .text "n", .null, none, none, by decide, by decide⟩
    let schema : Schema := ⟨[⟨1, "name", "text", 0, none⟩]⟩
    ∃ (listed : List StoredRow) (pages : List Page), listed.Perm (arrivals.matching arrivalsNamed) ∧
      listed.Pairwise (SortsBefore "createdAt" (some "DESC")) ∧
      (List.range' 1 2).mapM arrivalsPage = .ok pages ∧
      pages.flatMap (·.rows) =
        (listed.filter (arrivals.survives (Capabilities.engine ⟨true⟩) .utc schema [contains])).map
          (arrivals.shown schema false) := by
  have hfirst : (arrivalsPage 1).isOk = true := by cbv
  have hsecond : (arrivalsPage 2).isOk = true := by cbv
  have hcount : (arrivals.matching arrivalsNamed).length = 3 := by cbv
  have hbuilt : Predicate.ofCriteria .standard ⟨.utc, ⟨⟨0, by decide⟩, none⟩, ⟨true⟩⟩
      ⟨[⟨1, "name", "text", 0, none⟩]⟩ 7
      [⟨1, "contains", .text "n", .null, none, none, by decide, by decide⟩] "" =
        .ok arrivalsNamed := by cbv
  have hkeyed : ((arrivals.rows.getD []).map (·.id)).Nodup := by decide
  intro contains schema
  obtain ⟨listed, hperm, hsorted, _, hall⟩ := assemble_isPaging hbuilt
    (Capabilities.engine ⟨true⟩) hkeyed (show 1 ≤ 2 by decide) "createdAt" (some "DESC") false
  rw [hperm.length_eq, hcount] at hall
  have nofault (k : Nat) (hk : 1 ≤ k) (hlast : k ≤ (3 + 2 - 1) / 2) (fault : StoreFault) :
      arrivalsPage k ≠ .error (.store fault) := by
    intro hfault
    rcases show k = 1 ∨ k = 2 by omega with rfl | rfl
    · rw [hfault] at hfirst
      cases hfirst
    · rw [hfault] at hsecond
      cases hsecond
  obtain ⟨pages, hpages, hrows, _⟩ := hall nofault
  exact ⟨listed, pages, hperm, hsorted, hpages, hrows⟩

end Store

end GridQuery
