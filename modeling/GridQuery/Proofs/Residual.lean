import GridQuery.Proofs.Predicate
import GridQuery.Store.Assembly

/-!
# The residual pass, criterion by criterion

Resolving a request's criteria a second time selects the same ones, and a row passes the residual pass
if it passes each of them.  What is selected puts a condition on the store as well.
-/

namespace GridQuery

namespace ResidualEngine
variable {engine : ResidualEngine} {zone : Zone} {schema : Schema} {criteria : List Criterion}

/-- Whether a row passes a criterion, as far as an engine evaluates it. -/
def keeps (engine : ResidualEngine) (zone : Zone) (schema : Schema) (row : Row)
    (criterion : Criterion) : Bool :=
  (criterion.resolved? zone schema).all fun resolved =>
    !engine.concerns resolved || engine.passes row resolved

theorem all_passes_eq_all_keeps (row : Row) :
    (engine.criteria (criteria.filterMap (Criterion.resolved? zone schema))).all (engine.passes row) =
      criteria.all (engine.keeps zone schema row) := by
  simp only [ResidualEngine.criteria, List.all_filter, List.all_filterMap]
  congr 1

theorem allResolve_of_select {selected : List Resolved}
    (h : engine.select zone schema criteria = .ok selected) : AllResolve zone schema criteria := by
  induction criteria generalizing selected with
  | nil => exact fun _ hmem => absurd hmem List.not_mem_nil
  | cons criterion criteria ih =>
    obtain ⟨outcome, houtcome, h⟩ := Steps.bind_eq_ok_iff.mp h
    obtain ⟨rest, hrest, _⟩ := Steps.bind_eq_ok_iff.mp h
    exact allResolve_cons.mpr ⟨⟨outcome, houtcome⟩, ih hrest⟩

theorem keep_eq_ok_iff {rows kept : List Row} :
    engine.keep zone schema criteria rows = .ok kept ↔
      AllResolve zone schema criteria ∧
        kept = rows.filter fun row => criteria.all (engine.keeps zone schema row) := by
  simp only [keep, Steps.bind_eq_ok_iff, Steps.pure_eq_ok_iff]
  constructor
  · rintro ⟨selected, hselect, rfl⟩
    have all := allResolve_of_select hselect
    rw [select_eq_ok all] at hselect
    cases hselect
    exact ⟨all, List.filter_congr fun row _ => all_passes_eq_all_keeps row⟩
  · rintro ⟨all, rfl⟩
    exact ⟨_, select_eq_ok all, List.filter_congr fun row _ => (all_passes_eq_all_keeps row).symm⟩

end ResidualEngine

end GridQuery
