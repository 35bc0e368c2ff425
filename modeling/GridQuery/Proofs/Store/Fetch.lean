import GridQuery.Proofs.Steps
import GridQuery.Store.Fetch

/-!
# What a store answers

`Accepts` collects what a store checks before it answers: then it counts and fetches exactly the rows
of `matches`.  Fetching sorts them, cuts a window out and shows what is left, with the values of the cells
as they are kept.
-/

namespace GridQuery

theorem Double.kept_cases (x : Double) : x.kept = .real x ∨ ∃ n, x.toInt? = some n ∧ x.kept = .int n := by
  unfold kept
  cases x.toInt? with
  | none => exact .inl rfl
  | some n =>
    simp only
    split
    · exact .inr ⟨n, rfl, rfl⟩
    · exact .inl rfl

namespace Keeping
variable {keeping : Keeping} {value other : Value}

theorem kept_numbers_int (double : String → Double) (n : Int) :
    (numbers double).kept (.int n) = if fitsStore n then .int n else (double (toString n)).kept := by
  simp only [kept, fitsStore, Bool.and_eq_true, decide_eq_true_eq]

theorem kept_cases (keeping : Keeping) (value : Value) :
    keeping.kept value = value ∨
      ((∃ n, value = .int n) ∨ ∃ x, value = .real x) ∧ ∃ x : Double, keeping.kept value = x.kept := by
  cases keeping with
  | texts => exact .inl rfl
  | numbers double =>
    cases value with
    | int n =>
      rw [kept_numbers_int]
      split
      · exact .inl rfl
      · exact .inr ⟨.inl ⟨n, rfl⟩, _, rfl⟩
    | real x =>
      simp only [kept]
      split
      · exact .inr ⟨.inr ⟨x, rfl⟩, _, rfl⟩
      · exact .inl rfl
    | _ => exact .inl rfl

theorem kept_eq_iff (hint : ∀ n, other ≠ .int n) (hreal : ∀ x, other ≠ .real x) :
    keeping.kept value = other ↔ value = other := by
  rcases keeping.kept_cases value with h | ⟨hnumber, x, hkept⟩
  · rw [h]
  · refine iff_of_false ?_ ?_
    · rw [hkept]
      rcases x.kept_cases with h | ⟨n, -, h⟩
      · exact h ▸ (hreal x).symm
      · exact h ▸ (hint n).symm
    · rcases hnumber with ⟨n, rfl⟩ | ⟨x, rfl⟩
      · exact (hint n).symm
      · exact (hreal x).symm

theorem kept_eq_null_iff : keeping.kept value = .null ↔ value = .null := kept_eq_iff (by simp) (by simp)

theorem isNull_kept (keeping : Keeping) (value : Value) : (keeping.kept value).isNull = value.isNull := by
  rcases keeping.kept_cases value with h | ⟨hnumber, x, hkept⟩
  · rw [h]
  · have hnumeral : x.kept.isNull = false := by
      rcases x.kept_cases with h | ⟨n, -, h⟩
      · exact h ▸ rfl
      · exact h ▸ rfl
    rw [hkept, hnumeral]
    rcases hnumber with ⟨n, rfl⟩ | ⟨x, rfl⟩
    · rfl
    · rfl

theorem kept_eq_text_iff {s : String} : keeping.kept value = .text s ↔ value = .text s :=
  kept_eq_iff (by simp) (by simp)

end Keeping

namespace Store
variable {store : Store} {predicate : Predicate} {numbers : List Int}

def cellsAt (store : Store) (rowId : Int) : List (Int × Projections) :=
  projected (store.cells.getD []) rowId

def matching (store : Store) (predicate : Predicate) : List StoredRow :=
  (store.rows.getD []).filter fun row => predicate.holds row.tableId (store.cellsAt row.id)

/-- A store can be given a predicate together with some numbers. -/
structure Accepts (store : Store) (predicate : Predicate) (numbers : List Int) : Prop where
  instants : ∀ instant ∈ predicate.instants, instant.toUtc?.isSome
  rows : store.rows.isSome
  cells : predicate.conditions ≠ [] → store.cells.isSome
  integers : ∀ n ∈ predicate.tableId :: numbers, fitsStore n

theorem checkIntegers_eq_ok_iff : checkIntegers numbers = .ok () ↔ ∀ n ∈ numbers, fitsStore n := by
  unfold checkIntegers
  split <;> simp_all

theorem holds_of_conditions_eq_nil (h : predicate.conditions = []) (id : Int)
    (cells others : List (Int × Projections)) :
    predicate.holds id cells = predicate.holds id others := by
  simp [Predicate.holds, h]

theorem part_eq_ok_iff {α : Type} {o : Option α} {a : α} : part o = .ok a ↔ o = some a := by
  cases o <;> simp [part]

theorem select_of_accepts (accepts : store.Accepts predicate numbers) :
    store.select predicate numbers = .ok (store.matching predicate) := by
  obtain ⟨hinstants, hrows, hcells, hintegers⟩ := accepts
  obtain ⟨rows, hrows⟩ := Option.isSome_iff_exists.mp hrows
  have hall : predicate.instants.all (·.toUtc?.isSome) = true := List.all_eq_true.mpr hinstants
  simp only [select, hall, hrows, part, checkIntegers_eq_ok_iff.mpr hintegers, matching, bind,
    Except.bind, pure, Except.pure, Option.getD_some]
  by_cases hnone : predicate.conditions = []
  · simp only [hnone, List.isEmpty_nil, Bool.not_true, Bool.false_eq_true, if_false, if_true,
      Except.ok.injEq]
    exact List.filter_congr fun row _ => holds_of_conditions_eq_nil hnone _ _ _
  · obtain ⟨cells, hcells⟩ := Option.isSome_iff_exists.mp (hcells hnone)
    have hempty : predicate.conditions.isEmpty = false := by simpa using hnone
    simp only [hempty, hcells, cellsAt, Bool.not_true, Bool.false_eq_true, if_false,
      Option.getD_some]

theorem accepts_of_select {found : List StoredRow}
    (h : store.select predicate numbers = .ok found) : store.Accepts predicate numbers := by
  unfold select at h
  split at h
  · cases h
  · rename_i hinstants
    rw [Bool.not_eq_true, Bool.not_eq_false'] at hinstants
    obtain ⟨rows, hrows, h⟩ := Steps.bind_eq_ok_iff.mp h
    have hrows' : store.rows.isSome := by simp [part_eq_ok_iff.mp hrows]
    by_cases hnone : predicate.conditions = []
    · simp only [hnone, List.isEmpty_nil, if_true] at h
      obtain ⟨_, _, h⟩ := Steps.bind_eq_ok_iff.mp h
      obtain ⟨_, hintegers, _⟩ := Steps.bind_eq_ok_iff.mp h
      exact ⟨List.all_eq_true.mp hinstants, hrows', fun hne => absurd hnone hne,
        checkIntegers_eq_ok_iff.mp hintegers⟩
    · have hempty : predicate.conditions.isEmpty = false := by simpa using hnone
      simp only [hempty, Bool.false_eq_true, if_false] at h
      obtain ⟨cells, hcells, h⟩ := Steps.bind_eq_ok_iff.mp h
      obtain ⟨_, hintegers, _⟩ := Steps.bind_eq_ok_iff.mp h
      exact ⟨List.all_eq_true.mp hinstants, hrows', fun _ => by simp [part_eq_ok_iff.mp hcells],
        checkIntegers_eq_ok_iff.mp hintegers⟩

/-- A store selects exactly the rows that satisfy the predicate, once it accepts it. -/
theorem select_eq_ok_iff {found : List StoredRow} :
    store.select predicate numbers = .ok found ↔
      store.Accepts predicate numbers ∧ found = store.matching predicate := by
  constructor
  · intro h
    have accepts := accepts_of_select h
    rw [select_of_accepts accepts] at h
    cases h
    exact ⟨accepts, rfl⟩
  · rintro ⟨accepts, rfl⟩
    exact select_of_accepts accepts

theorem count_eq_ok_iff {total : Nat} :
    store.count predicate = .ok total ↔
      store.Accepts predicate [] ∧ total = (store.matching predicate).length := by
  simp only [count, Steps.map_eq_ok_iff, select_eq_ok_iff]
  constructor
  · rintro ⟨_, ⟨accepts, rfl⟩, rfl⟩
    exact ⟨accepts, rfl⟩
  · rintro ⟨accepts, rfl⟩
    exact ⟨_, ⟨accepts, rfl⟩, rfl⟩

def listing (store : Store) (predicate : Predicate) (order : RowOrder) : List StoredRow :=
  (store.matching predicate).mergeSort order.precedes

def loaded (store : Store) (includeCells : Bool) : List StoredCell :=
  if includeCells then store.cells.getD [] else []

section Fetch
variable {order : RowOrder} {offset : Int} {limit : Option Int} {includeCells : Bool}

theorem fetch_of_accepts (accepts : store.Accepts predicate (offset :: limit.toList)) :
    store.fetch predicate order offset limit includeCells =
      if includeCells ∧ window offset limit (store.listing predicate order) ≠ [] then
        (part store.cells).map fun cells =>
          (window offset limit (store.listing predicate order)).map (store.rowView cells)
      else .ok ((window offset limit (store.listing predicate order)).map (store.rowView [])) := by
  have hload : (includeCells && !(window offset limit (store.listing predicate order)).isEmpty) =
      true ↔ includeCells ∧ window offset limit (store.listing predicate order) ≠ [] := by simp
  simp only [fetch, select_of_accepts accepts, bind, Except.bind]
  by_cases h : includeCells ∧ window offset limit (store.listing predicate order) ≠ []
  · rw [if_pos h]
    refine (if_pos (hload.mpr h)).trans ?_
    cases part store.cells <;> rfl
  · rw [if_neg h]
    exact if_neg (mt hload.mp h)

/-- Rows that come without cells look alike whatever cells there are, and so does the empty list. -/
theorem map_rowView_nil {rows : List StoredRow} (h : ¬ (includeCells ∧ rows ≠ [])) :
    rows.map (store.rowView []) = rows.map (store.rowView (store.loaded includeCells)) := by
  cases includeCells with
  | false => rfl
  | true =>
    cases rows with
    | nil => rfl
    | cons row rows => exact absurd ⟨rfl, List.cons_ne_nil row rows⟩ h

/-- A store fetches a window of the listing.  It needs the cells only if it has a row to show. -/
theorem fetch_eq_ok_iff {rows : List Row} :
    store.fetch predicate order offset limit includeCells = .ok rows ↔
      store.Accepts predicate (offset :: limit.toList) ∧
        (includeCells → window offset limit (store.listing predicate order) ≠ [] →
          store.cells.isSome) ∧
        rows = (window offset limit (store.listing predicate order)).map
          (store.rowView (store.loaded includeCells)) := by
  constructor
  · intro h
    have accepts : store.Accepts predicate (offset :: limit.toList) := by
      obtain ⟨_, hselect, _⟩ := Steps.bind_eq_ok_iff.mp h
      exact accepts_of_select hselect
    refine ⟨accepts, ?_⟩
    rw [fetch_of_accepts accepts] at h
    split at h
    · rename_i hload
      obtain ⟨cells, hcells, rfl⟩ := Steps.map_eq_ok_iff.mp h
      rw [part_eq_ok_iff] at hcells
      exact ⟨fun _ _ => by simp [hcells], by simp [loaded, hload.1, hcells]⟩
    · rename_i hload
      cases h
      exact ⟨fun hinclude hne => absurd ⟨hinclude, hne⟩ hload, map_rowView_nil hload⟩
  · rintro ⟨accepts, hload, rfl⟩
    rw [fetch_of_accepts accepts]
    split
    · rename_i h
      obtain ⟨cells, hcells⟩ := Option.isSome_iff_exists.mp (hload h.1 h.2)
      simp [part, loaded, h.1, hcells, Except.map]
    · rename_i h
      rw [map_rowView_nil h]

end Fetch

end Store

end GridQuery
