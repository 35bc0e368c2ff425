import GridQuery.Proofs.Resolution

/-!
# Predicates as conjunctions

A predicate is built from its criteria one by one: each contributes the condition it compiles to, if
it compiles to one.  `ofCriteria_eq_ok_iff` says when a predicate can be built and what it is.
-/

namespace GridQuery

namespace Constraints
variable {constraints : Constraints} {setting : Setting}

/-- The condition that a criterion compiles to, if it compiles to one. -/
def compiled? (constraints : Constraints) (setting : Setting) (resolved : Resolved) :
    Option Condition :=
  match constraints.condition? setting resolved with
  | .ok condition => condition
  | .error _ => none

def Compiles (constraints : Constraints) (setting : Setting) (resolved : Resolved) : Prop :=
  ∃ condition, constraints.condition? setting resolved = .ok condition

theorem condition?_eq_ok {resolved : Resolved} (h : constraints.Compiles setting resolved) :
    constraints.condition? setting resolved = .ok (constraints.compiled? setting resolved) := by
  obtain ⟨condition, h⟩ := h
  simp [compiled?, h]

theorem mapM_condition?_eq_ok_iff {resolved : List Resolved} {conditions : List (Option Condition)} :
    resolved.mapM (constraints.condition? setting) = .ok conditions ↔
      (∀ r ∈ resolved, constraints.Compiles setting r) ∧
        conditions = resolved.map (constraints.compiled? setting) := by
  induction resolved generalizing conditions with
  | nil => simp [pure, Except.pure, eq_comm]
  | cons r resolved ih =>
    rw [List.mapM_cons, List.forall_mem_cons, List.map_cons]
    simp only [Steps.bind_eq_ok_iff, Steps.pure_eq_ok_iff, ih]
    constructor
    · rintro ⟨condition, h, rest, ⟨all, rfl⟩, rfl⟩
      have value : constraints.compiled? setting r = condition := by simp [compiled?, h]
      exact ⟨⟨⟨condition, h⟩, all⟩, by rw [value]⟩
    · rintro ⟨⟨compiles, all⟩, rfl⟩
      exact ⟨_, condition?_eq_ok compiles, _, ⟨all, rfl⟩, rfl⟩

end Constraints

/-- A criterion resolves or is dropped, and compiles if it resolves. -/
def Criterion.Builds (constraints : Constraints) (setting : Setting) (schema : Schema)
    (criterion : Criterion) : Prop :=
  criterion.Resolves setting.zone schema ∧
    ∀ resolved, criterion.resolved? setting.zone schema = some resolved →
      constraints.Compiles setting resolved

/-- The condition that a criterion puts on rows, if it resolves and compiles to one. -/
def Criterion.condition? (constraints : Constraints) (setting : Setting) (schema : Schema)
    (criterion : Criterion) : Option Condition :=
  (criterion.resolved? setting.zone schema).bind (constraints.compiled? setting)

theorem filterMap_compiled? (constraints : Constraints) (setting : Setting) (schema : Schema)
    (criteria : List Criterion) :
    (criteria.filterMap (Criterion.resolved? setting.zone schema)).filterMap
        (constraints.compiled? setting) =
      criteria.filterMap (Criterion.condition? constraints setting schema) :=
  List.filterMap_filterMap

namespace Predicate
variable {constraints : Constraints} {setting : Setting} {schema : Schema} {tableId : Int}
  {criteria : List Criterion} {search : String}

def built (constraints : Constraints) (setting : Setting) (schema : Schema) (tableId : Int)
    (criteria : List Criterion) (search : String) : Predicate where
  tableId
  conditions := criteria.filterMap (Criterion.condition? constraints setting schema) ++
    (Condition.search? search).toList
  criteria := criteria.filterMap (Criterion.resolved? setting.zone schema)
  dropped := criteria.filterMap (Criterion.dropped? setting.zone schema)

theorem ofResolved_eq_ok_iff {resolved : List Resolved} {predicate : Predicate} :
    ofResolved constraints setting tableId resolved search = .ok predicate ↔
      (∀ r ∈ resolved, constraints.Compiles setting r) ∧
        predicate = ⟨tableId, resolved.filterMap (constraints.compiled? setting) ++
          (Condition.search? search).toList, resolved, []⟩ := by
  simp only [ofResolved, Steps.bind_eq_ok_iff, Constraints.mapM_condition?_eq_ok_iff,
    Steps.pure_eq_ok_iff]
  constructor
  · rintro ⟨conditions, ⟨all, rfl⟩, rfl⟩
    exact ⟨all, by simp [List.filterMap_map]⟩
  · rintro ⟨all, rfl⟩
    exact ⟨_, ⟨all, rfl⟩, by simp [List.filterMap_map]⟩

theorem builds_iff :
    (∀ criterion ∈ criteria, criterion.Builds constraints setting schema) ↔
      AllResolve setting.zone schema criteria ∧
        ∀ r ∈ criteria.filterMap (Criterion.resolved? setting.zone schema),
          constraints.Compiles setting r := by
  simp only [Criterion.Builds, AllResolve, List.mem_filterMap]
  constructor
  · intro h
    refine ⟨fun criterion hmem => (h criterion hmem).1, ?_⟩
    rintro r ⟨criterion, hmem, hr⟩
    exact (h criterion hmem).2 r hr
  · rintro ⟨hresolve, hcompile⟩ criterion hmem
    exact ⟨hresolve criterion hmem, fun r hr => hcompile r ⟨criterion, hmem, hr⟩⟩

/-- A predicate can be built exactly if it can be built from each criterion by itself, and it is made
of what these come to. -/
theorem ofCriteria_eq_ok_iff {predicate : Predicate} :
    ofCriteria constraints setting schema tableId criteria search = .ok predicate ↔
      (∀ criterion ∈ criteria, criterion.Builds constraints setting schema) ∧
        predicate = built constraints setting schema tableId criteria search := by
  rw [builds_iff]
  unfold ofCriteria
  constructor
  · intro h
    split at h
    · cases h
    · rename_i resolved dropped hresolve
      obtain ⟨all, rfl, rfl⟩ := resolveAll_eq_ok_iff.mp hresolve
      split at h
      · cases h
      · rename_i base hbase
        obtain ⟨compiles, rfl⟩ := ofResolved_eq_ok_iff.mp hbase
        cases h
        exact ⟨⟨all, compiles⟩, by rw [filterMap_compiled?]; rfl⟩
  · rintro ⟨⟨all, compiles⟩, rfl⟩
    simp only [resolveAll_eq_ok all, ofResolved_eq_ok_iff.mpr ⟨compiles, rfl⟩, filterMap_compiled?,
      built]

theorem all_toList_eq_all {α : Type} (p : α → Bool) (o : Option α) : o.toList.all p = o.all p := by
  cases o <;> simp

/-- A row satisfies a predicate if it is one of the table and satisfies the search and every condition
that a criterion comes to. -/
theorem holds_built {cells : List (Int × Projections)} {id : Int} :
    (built constraints setting schema tableId criteria search).holds id cells =
      (id == tableId && ((Condition.search? search).all (Condition.holds cells) &&
        criteria.all fun criterion =>
          (criterion.condition? constraints setting schema).all (Condition.holds cells))) := by
  simp only [holds, built, List.all_append, List.all_filterMap, all_toList_eq_all]
  rw [Bool.and_comm (criteria.all _)]
  congr 3

end Predicate

end GridQuery
