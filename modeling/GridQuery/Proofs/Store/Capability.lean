import GridQuery.Proofs.Conjunction
import GridQuery.Proofs.Lexical
import GridQuery.Proofs.Store.Keeping
import Mathlib

/-!
# Patterns in the store and in the residual pass

A store that knows patterns matches them against the text it keeps beside a cell.  Any other store asks
for a value, and the residual pass matches the value that is read back; an empty text is no value to it.
All else is the same, so the rows that survive differ exactly by what the two say of the patterns.
-/

namespace GridQuery

/-- The same setting with a store that knows patterns, or with one that does not. -/
def Setting.withRegex (setting : Setting) (native : Bool) : Setting :=
  { setting with capabilities := ⟨native⟩ }

namespace Setting
variable (setting : Setting) (native : Bool)

@[simp] theorem zone_withRegex : (setting.withRegex native).zone = setting.zone := rfl

@[simp] theorem now_withRegex : (setting.withRegex native).now = setting.now := rfl

end Setting

namespace Value

end Value

namespace Resolved

/-- The pattern that a criterion asks for.  The empty one asks for nothing. -/
def pattern? (resolved : Resolved) : Option String :=
  match resolved.operator, resolved.value with
  | .regex, .text pattern => if pattern.isEmpty then none else some pattern
  | _, _ => none

variable {setting : Setting} {resolved : Resolved} {native : Bool}

theorem pattern?_of_regex (h : resolved.operator = .regex) (test : String → Condition) :
    resolved.textCondition? test = resolved.pattern?.map test := by
  unfold textCondition? pattern?
  rw [h]
  cases resolved.value with
  | text s =>
    simp only
    split <;> rfl
  | _ => rfl

theorem condition?_withRegex (h : resolved.operator ≠ .regex) (a b : Bool) :
    Constraints.standard.condition? (setting.withRegex a) resolved =
      Constraints.standard.condition? (setting.withRegex b) resolved := by
  have hsame : resolved.condition? (setting.withRegex a) =
      resolved.condition? (setting.withRegex b) := by
    cases hoperator : resolved.operator with
    | regex => exact absurd hoperator h
    | _ => simp only [condition?, hoperator, Setting.zone_withRegex, Setting.now_withRegex]
  rw [Constraints.condition?, Constraints.condition?, hsame]

theorem condition?_of_regex (h : resolved.operator = .regex) :
    Constraints.standard.condition? (setting.withRegex native) resolved =
      .ok (if Constraints.standard.has .regex resolved.family then
        resolved.pattern?.map (resolved.patternCondition ⟨native⟩) else none) := by
  unfold Constraints.condition? condition?
  simp only [h, pattern?_of_regex h]
  by_cases hknown : Constraints.standard.has .regex resolved.family
  · rw [if_pos hknown, if_pos hknown]
    rfl
  · rw [if_neg hknown, if_neg hknown]

end Resolved

namespace Criterion
variable {setting : Setting} {schema : Schema} {criterion : Criterion}

theorem Builds.withRegex {a : Bool} (h : criterion.Builds .standard (setting.withRegex a) schema)
    (b : Bool) : criterion.Builds .standard (setting.withRegex b) schema := by
  refine ⟨h.1, fun resolved hresolved => ?_⟩
  by_cases hregex : resolved.operator = .regex
  · exact ⟨_, Resolved.condition?_of_regex hregex⟩
  · obtain ⟨condition, hcondition⟩ := h.2 resolved hresolved
    exact ⟨condition, Resolved.condition?_withRegex hregex b a ▸ hcondition⟩

/-- Whoever matches the pattern of a criterion, it puts a condition on the store or none, and the store
has to be given the same instants for it. -/
theorem condition?_withRegex_cases (a b : Bool) :
    criterion.condition? .standard (setting.withRegex a) schema =
        criterion.condition? .standard (setting.withRegex b) schema ∨
      ∃ c d, criterion.condition? .standard (setting.withRegex a) schema = some c ∧
        criterion.condition? .standard (setting.withRegex b) schema = some d ∧
        c.instants = [] ∧ d.instants = [] := by
  simp only [condition?, Setting.zone_withRegex]
  cases criterion.resolved? setting.zone schema with
  | none => exact .inl rfl
  | some resolved =>
    simp only [Option.bind_some, Constraints.compiled?]
    by_cases hregex : resolved.operator = .regex
    · simp only [Resolved.condition?_of_regex hregex]
      split
      · cases resolved.pattern? with
        | none => exact .inl rfl
        | some pattern => exact .inr ⟨_, _, rfl, rfl, Resolved.instants_patternCondition,
            Resolved.instants_patternCondition⟩
      · exact .inl rfl
    · exact .inl (by rw [Resolved.condition?_withRegex hregex a b])

end Criterion

namespace Store
variable {store : Store} {setting : Setting} {schema : Schema} {tableId : Int} {search : String}
  {order : RowOrder} {criteria : List Criterion} {contents : Contents}

theorem Runs.withRegex {a : Bool}
    (runs : store.Runs (setting.withRegex a) schema tableId search criteria) (b : Bool) :
    store.Runs (setting.withRegex b) schema tableId search criteria := by
  refine ⟨fun criterion hmem => (runs.builds criterion hmem).withRegex b, ?_, runs.rows,
    runs.integers, ?_⟩
  · intro criterion hmem condition hcondition
    rcases criterion.condition?_withRegex_cases a b with heq | ⟨_, d, _, hd, _, hinstants⟩
    · exact runs.instants criterion hmem condition (heq.trans hcondition)
    · rw [hd, Option.some.injEq] at hcondition
      rw [← hcondition, hinstants]
      exact fun _ hmem => absurd hmem List.not_mem_nil
  · rcases runs.cells with hcells | ⟨hsearch, hnone, hempty⟩
    · exact .inl hcells
    · refine .inr ⟨hsearch, fun criterion hmem => ?_, hempty⟩
      rcases criterion.condition?_withRegex_cases a b with heq | ⟨c, _, hc, _⟩
      · exact heq.symm.trans (hnone criterion hmem)
      · rw [hnone criterion hmem] at hc
        cases hc

section Rows
variable {row : StoredRow} {criterion : Criterion} {resolved : Resolved}

theorem Written.exists_cell_iff {zone : Zone} (written : store.Written zone contents)
    (rowId columnId : Int) (p : Value → Prop) :
    (∃ cell ∈ store.cells.getD [], cell.rowId = rowId ∧ cell.columnId = columnId ∧ p cell.value) ↔
      ∃ value, contents rowId columnId = some value ∧ p (store.keeping.kept value) := by
  constructor
  · rintro ⟨cell, hmem, rfl, rfl, hp⟩
    obtain ⟨value, hvalue, hkept, _⟩ := written.kept cell hmem
    exact ⟨value, hvalue, hkept ▸ hp⟩
  · rintro ⟨value, hvalue, hp⟩
    obtain ⟨cell, hmem, rfl, rfl⟩ := written.present rowId columnId value hvalue
    obtain ⟨found, hfound, hkept, _⟩ := written.kept cell hmem
    obtain rfl := Option.some.inj (hfound.symm.trans hvalue)
    exact ⟨cell, hmem, rfl, rfl, hkept ▸ hp⟩

end Rows

section Split
variable (store setting schema tableId search criteria)

end Split

end Store

end GridQuery
