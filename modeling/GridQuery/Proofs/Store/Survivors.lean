import GridQuery.Proofs.Lookup
import GridQuery.Proofs.Residual
import GridQuery.Proofs.Store.Order
import GridQuery.Store.Serving

/-!
# Which rows survive

`Runs` says when the surviving rows of some criteria can be told, one criterion at a time.  They are
then the rows of the table that satisfy the search and that each criterion admits; whether it does
depends on the id of the row only.
-/

namespace GridQuery

namespace ResidualEngine

theorem keeps_congr {engine : ResidualEngine} {zone : Zone} {schema : Schema} {row other : Row}
    (h : row.cells = other.cells) :
    engine.keeps zone schema row = engine.keeps zone schema other := by
  funext criterion
  have hcell (id : Int) : row.cell? id = other.cell? id := by
    rw [Row.cell?_eq_find?, Row.cell?_eq_find?, h]
  simp only [keeps, passes, hcell]

end ResidualEngine

namespace Condition

theorem instants_of_search? {search : String} {condition : Condition}
    (h : search? search = some condition) : condition.instants = [] := by
  unfold search? at h
  split at h
  · cases h
  · cases h
    rfl

end Condition

namespace Store
variable (store : Store) (setting : Setting) (schema : Schema) (tableId : Int) (search : String)

/-- A criterion lets a row of the store through, in the predicate as well as in the residual pass. -/
def admits (row : StoredRow) (criterion : Criterion) : Bool :=
  (criterion.condition? .standard setting schema).all (Condition.holds (store.cellsAt row.id)) &&
    setting.capabilities.engine.keeps setting.zone schema
      (store.rowView (store.cells.getD []) row) criterion

def searched : Predicate := .built .standard setting schema tableId [] search

/-- What has to be given for the surviving rows to be told. -/
structure Runs (criteria : List Criterion) : Prop where
  builds : ∀ criterion ∈ criteria, criterion.Builds .standard setting schema
  instants : ∀ criterion ∈ criteria, ∀ condition,
    criterion.condition? .standard setting schema = some condition →
      ∀ instant ∈ condition.instants, instant.toUtc?.isSome
  rows : store.rows.isSome
  integers : fitsStore tableId
  /-- Without cells nothing can be asked about them, and no row be shown. -/
  cells : store.cells.isSome ∨ Condition.search? search = none ∧
    (∀ criterion ∈ criteria, criterion.condition? .standard setting schema = none) ∧
    ∀ row ∈ store.rows.getD [], row.tableId ≠ tableId

variable {store setting schema tableId search} {criteria : List Criterion} {order : RowOrder}

theorem admits_congr {row other : StoredRow} (h : row.id = other.id) :
    store.admits setting schema row = store.admits setting schema other := by
  funext criterion
  unfold admits
  rw [h, ResidualEngine.keeps_congr (show (store.rowView (store.cells.getD []) row).cells =
    (store.rowView (store.cells.getD []) other).cells by simp only [rowView, h])]

theorem matching_built :
    store.matching (.built .standard setting schema tableId criteria search) =
      (store.matching (searched setting schema tableId search)).filter fun row =>
        criteria.all fun criterion => (criterion.condition? .standard setting schema).all
          (Condition.holds (store.cellsAt row.id)) := by
  simp only [matching, searched, Predicate.holds_built, List.filter_filter, List.all_nil,
    Bool.and_true]
  apply List.filter_congr
  intro row _
  rw [← Bool.and_assoc, Bool.and_comm]

theorem listing_built :
    store.listing (.built .standard setting schema tableId criteria search) order =
      (store.listing (searched setting schema tableId search) order).filter fun row =>
        criteria.all fun criterion => (criterion.condition? .standard setting schema).all
          (Condition.holds (store.cellsAt row.id)) := by
  rw [listing, matching_built,
    mergeSort_filter RowOrder.precedes_trans RowOrder.precedes_total]
  rfl

theorem built_conditions_eq_nil_iff :
    (Predicate.built .standard setting schema tableId criteria search).conditions = [] ↔
      Condition.search? search = none ∧
        ∀ criterion ∈ criteria, criterion.condition? .standard setting schema = none := by
  simp [Predicate.built, and_comm]

theorem holds_of_searched_nothing {row : StoredRow}
    (hnone : (Predicate.built .standard setting schema tableId criteria search).conditions = [])
    (heq : row.tableId = tableId) :
    (Predicate.built .standard setting schema tableId criteria search).holds row.tableId
      (store.cellsAt row.id) := by
  rw [Predicate.holds, hnone, heq]
  simp [Predicate.built]

theorem forall_instants_built_iff {p : Instant → Prop} :
    (∀ instant ∈ (Predicate.built .standard setting schema tableId criteria search).instants,
        p instant) ↔
      ∀ criterion ∈ criteria, ∀ condition,
        criterion.condition? .standard setting schema = some condition →
          ∀ instant ∈ condition.instants, p instant := by
  constructor
  · intro hall criterion hcriterion condition hcondition instant hmem
    refine hall instant (List.mem_flatMap.mpr ⟨condition, ?_, hmem⟩)
    exact List.mem_append_left _ (List.mem_filterMap.mpr ⟨criterion, hcriterion, hcondition⟩)
  · intro hall instant hmem
    obtain ⟨condition, hcondition, hmem⟩ := List.mem_flatMap.mp hmem
    rcases List.mem_append.mp hcondition with hcondition | hcondition
    · obtain ⟨criterion, hcriterion, hcondition⟩ := List.mem_filterMap.mp hcondition
      exact hall criterion hcriterion condition hcondition instant hmem
    · rw [Condition.instants_of_search? (Option.mem_toList.mp hcondition)] at hmem
      cases hmem

theorem Runs.accepts (runs : store.Runs setting schema tableId search criteria) :
    store.Accepts (.built .standard setting schema tableId criteria search) [0] := by
  refine ⟨forall_instants_built_iff.mpr runs.instants, runs.rows, ?_, ?_⟩
  · intro hne
    rcases runs.cells with hcells | ⟨hsearch, hnone, _⟩
    · exact hcells
    · exact absurd (built_conditions_eq_nil_iff.mpr ⟨hsearch, hnone⟩) hne
  · intro n hmem
    rcases List.mem_cons.mp hmem with rfl | hmem
    · exact runs.integers
    · obtain rfl := List.mem_singleton.mp hmem
      decide

theorem Runs.cells_of_listing (runs : store.Runs setting schema tableId search criteria)
    (hne : store.listing (.built .standard setting schema tableId criteria search) order ≠ []) :
    store.cells.isSome := by
  rcases runs.cells with hcells | ⟨_, _, hempty⟩
  · exact hcells
  · obtain ⟨row, hmem⟩ := List.exists_mem_of_ne_nil _ hne
    obtain ⟨hmem, hholds⟩ := List.mem_filter.mp (listing_perm.subset hmem)
    rw [Predicate.holds_built, Bool.and_eq_true] at hholds
    exact absurd (eq_of_beq hholds.1) (hempty row hmem)

theorem runs_of_accepts (hbuilds : ∀ criterion ∈ criteria, criterion.Builds .standard setting schema)
    (accepts : store.Accepts (.built .standard setting schema tableId criteria search) [0])
    (hlisting : store.listing (.built .standard setting schema tableId criteria search) order ≠ [] →
      store.cells.isSome) :
    store.Runs setting schema tableId search criteria := by
  refine ⟨hbuilds, forall_instants_built_iff.mp accepts.instants, accepts.rows,
    accepts.integers _ List.mem_cons_self, ?_⟩
  · by_cases hnone :
      (Predicate.built .standard setting schema tableId criteria search).conditions = []
    · by_cases hempty :
        store.listing (.built .standard setting schema tableId criteria search) order = []
      · obtain ⟨hsearch, hconditions⟩ := built_conditions_eq_nil_iff.mp hnone
        refine .inr ⟨hsearch, hconditions, fun row hmem heq => ?_⟩
        have hmatch : row ∈ store.listing
            (.built .standard setting schema tableId criteria search) order :=
          listing_perm.symm.subset (List.mem_filter.mpr ⟨hmem, holds_of_searched_nothing hnone heq⟩)
        rw [hempty] at hmatch
        cases hmatch
      · exact .inl (hlisting hempty)
    · exact .inl (accepts.cells hnone)

/-- The surviving rows are those of the table that satisfy the search and that every criterion
admits. -/
theorem survivors_eq_ok_iff {rows : List Row} :
    store.survivors setting schema tableId search order criteria = .ok rows ↔
      store.Runs setting schema tableId search criteria ∧
        rows = ((store.listing (searched setting schema tableId search) order).filter fun row =>
          criteria.all (store.admits setting schema row)).map
            (store.rowView (store.cells.getD [])) := by
  have hresolve (h : ∀ criterion ∈ criteria, criterion.Builds .standard setting schema) :
      AllResolve setting.zone schema criteria := (Predicate.builds_iff.mp h).1
  have hwindow (rows : List StoredRow) : window 0 none rows = rows := rfl
  have hrows : ((store.listing (.built .standard setting schema tableId criteria search) order).map
      (store.rowView (store.loaded true))).filter (fun row => criteria.all
        (setting.capabilities.engine.keeps setting.zone schema row)) =
      ((store.listing (searched setting schema tableId search) order).filter fun row =>
        criteria.all (store.admits setting schema row)).map
          (store.rowView (store.cells.getD [])) := by
    rw [List.filter_map, listing_built, List.filter_filter]
    congr 1
    apply List.filter_congr
    intro row _
    rw [Bool.eq_iff_iff]
    simp only [Function.comp_apply, admits, loaded, if_true, Bool.and_eq_true, List.all_eq_true]
    exact ⟨fun h criterion hmem => ⟨h.2 criterion hmem, h.1 criterion hmem⟩,
      fun h => ⟨fun criterion hmem => (h criterion hmem).2, fun criterion hmem =>
        (h criterion hmem).1⟩⟩
  simp only [survivors, Steps.bind_eq_ok_iff, Steps.mapError_eq_ok_iff,
    Predicate.ofCriteria_eq_ok_iff, fetch_eq_ok_iff, ResidualEngine.keep_eq_ok_iff, hwindow,
    Option.toList_none, forall_const]
  constructor
  · rintro ⟨_, ⟨hbuilds, rfl⟩, _, ⟨haccepts, hcells, rfl⟩, _, rfl⟩
    exact ⟨runs_of_accepts hbuilds haccepts hcells, hrows⟩
  · rintro ⟨runs, rfl⟩
    exact ⟨_, ⟨runs.builds, rfl⟩, _, ⟨runs.accepts, runs.cells_of_listing, rfl⟩,
      hresolve runs.builds, hrows.symm⟩

end Store

end GridQuery
