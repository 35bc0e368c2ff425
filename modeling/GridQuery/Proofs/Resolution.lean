import GridQuery.Predicate
import GridQuery.Proofs.Steps

/-!
# What resolution yields

A criterion comes out of resolution as at most one resolved or one dropped criterion, and resolving a
list treats its members one by one.  Lists are therefore described by what their members come to:
`resolved?` and `dropped?` read an outcome, and `Resolves` says that there is one.
-/

namespace GridQuery

namespace Criterion
variable {zone : Zone} {schema : Schema} {criterion : Criterion}

def resolved? (zone : Zone) (schema : Schema) (criterion : Criterion) : Option Resolved :=
  match criterion.resolve zone schema with
  | .ok (.resolved resolved) => some resolved
  | _ => none

def dropped? (zone : Zone) (schema : Schema) (criterion : Criterion) : Option Dropped :=
  match criterion.resolve zone schema with
  | .ok (.dropped dropped) => some dropped
  | _ => none

def Resolves (zone : Zone) (schema : Schema) (criterion : Criterion) : Prop :=
  ∃ outcome, criterion.resolve zone schema = .ok outcome

theorem resolved?_eq_some_iff {resolved : Resolved} :
    criterion.resolved? zone schema = some resolved ↔
      criterion.resolve zone schema = .ok (.resolved resolved) := by
  unfold resolved?
  split <;> simp_all

theorem dropped?_eq_some_iff {dropped : Dropped} :
    criterion.dropped? zone schema = some dropped ↔
      criterion.resolve zone schema = .ok (.dropped dropped) := by
  unfold dropped?
  split <;> simp_all

theorem resolved?_isSome_eq (h : criterion.Resolves zone schema) :
    (criterion.resolved? zone schema).isSome = !(criterion.dropped? zone schema).isSome := by
  obtain ⟨outcome, h⟩ := h
  cases outcome <;> simp [resolved?, dropped?, h]

end Criterion

def ValueField.coerced (resolved : Resolved) : ValueField → Value
  | value => resolved.value
  | secondValue => resolved.secondValue

theorem Operator.fields_cases (operator : Operator) :
    operator.fields = [] ∨ operator.fields = [.value] ∨ operator.fields = [.value, .secondValue] := by
  unfold Operator.fields
  split
  · exact .inl rfl
  · split
    · exact .inr (.inr rfl)
    · exact .inr (.inl rfl)

theorem coerceFields_cons {zone : Zone} {type : String} {criterion : Criterion} {field : ValueField}
    {fields : List ValueField} {values : List Value}
    (h : coerceFields zone type criterion (field :: fields) = .ok (.ok values)) :
    ∃ value rest, values = value :: rest ∧
      coerce zone type (field.of criterion) = .ok (.usable value) ∧
      coerceFields zone type criterion fields = .ok (.ok rest) := by
  obtain ⟨outcome, houtcome, h⟩ := Steps.bind_eq_ok_iff.mp h
  cases outcome with
  | refused fault => cases h
  | usable value =>
    obtain ⟨others, hothers, h⟩ := Steps.bind_eq_ok_iff.mp h
    obtain ⟨rest, rfl, rfl⟩ := Steps.map_eq_ok_iff.mp (Steps.pure_eq_ok_iff.mp h).symm
    exact ⟨value, rest, rfl, houtcome, hothers⟩

theorem Operator.ofName?_name (operator : Operator) : ofName? operator.name = some operator := by
  cases operator <;> decide

theorem Operator.name_of_ofName? {name : String} {operator : Operator} (h : ofName? name = some operator) :
    operator.name = name := by
  simpa using List.find?_some h

namespace Criterion
variable {zone : Zone} {schema : Schema} {criterion : Criterion} {resolved : Resolved}

theorem operatorFor?_eq_some_iff {column : Column} {operator : Operator} :
    operatorFor? criterion column = some operator ↔
      Operator.ofName? criterion.operator = some operator ∧ operator ∈ column.family.operators := by
  rw [operatorFor?, Option.filter_eq_some_iff, decide_eq_true_iff]

theorem resolve_eq_resolved (h : criterion.resolve zone schema = .ok (.resolved resolved)) :
    schema.column? criterion.columnId = some resolved.column ∧
      operatorFor? criterion resolved.column = some resolved.operator ∧
      criterion.unfit zone schema = [] ∧
      ∃ values, coerceFields zone resolved.column.type criterion resolved.operator.fields =
          .ok (.ok values) ∧
        resolved = ⟨criterion, resolved.column, resolved.operator, values.headD .null,
          values.getD 1 .null⟩ := by
  unfold resolve at h
  split at h
  · rename_i column hunfit hcolumn
    split at h
    · cases h
    · rename_i operator hoperator
      obtain ⟨outcome, hvalues, h⟩ := Steps.bind_eq_ok_iff.mp h
      cases outcome with
      | error reason => cases h
      | ok values =>
        cases h
        exact ⟨hcolumn, hoperator, hunfit, values, hvalues, rfl⟩
  · cases h

theorem operator_mem (h : criterion.resolve zone schema = .ok (.resolved resolved)) :
    resolved.operator ∈ resolved.column.family.operators := by
  have hop := (resolve_eq_resolved h).2.1
  unfold operatorFor? at hop
  simpa using (Option.filter_eq_some_iff.mp hop).2

theorem unfitValue_eq_none (h : criterion.resolve zone schema = .ok (.resolved resolved))
    {field : ValueField} (hfield : field ∈ resolved.operator.fields) :
    unfitValue? zone resolved.column field (field.of criterion) = none := by
  obtain ⟨hcolumn, hoperator, hunfit, _⟩ := resolve_eq_resolved h
  unfold unfit at hunfit
  simp only [hcolumn, hoperator, List.filterMap_eq_nil_iff] at hunfit
  exact hunfit field hfield

/-- A value that the operator needs is given, and its coerced form is the one of the resolved
criterion. -/
theorem coerced_of_resolve (h : criterion.resolve zone schema = .ok (.resolved resolved))
    {field : ValueField} (hfield : field ∈ resolved.operator.fields) :
    (field.of criterion).isNull = false ∧
      coerce zone resolved.column.type (field.of criterion) =
        .ok (.usable (field.coerced resolved)) := by
  have hfit := unfitValue_eq_none h hfield
  constructor
  · unfold unfitValue? at hfit
    split at hfit
    · cases hfit
    · simp_all
  · obtain ⟨_, _, _, values, hvalues, heq⟩ := resolve_eq_resolved h
    rcases resolved.operator.fields_cases with hnone | hone | htwo
    · simp [hnone] at hfield
    · rw [hone] at hfield hvalues
      obtain ⟨value, rest, rfl, hvalue, _⟩ := coerceFields_cons hvalues
      obtain rfl := List.mem_singleton.mp hfield
      rw [hvalue, heq]
      rfl
    · rw [htwo] at hfield hvalues
      obtain ⟨value, rest, rfl, hvalue, hrest⟩ := coerceFields_cons hvalues
      obtain ⟨second, rest, rfl, hsecond, _⟩ := coerceFields_cons hrest
      rcases List.mem_cons.mp hfield with rfl | hfield
      · rw [hvalue, heq]
        rfl
      · obtain rfl := List.mem_singleton.mp hfield
        rw [hsecond, heq]
        rfl

end Criterion

def AllResolve (zone : Zone) (schema : Schema) (criteria : List Criterion) : Prop :=
  ∀ criterion ∈ criteria, criterion.Resolves zone schema

section Lists
variable {zone : Zone} {schema : Schema} {criteria : List Criterion}

theorem allResolve_cons {criterion : Criterion} :
    AllResolve zone schema (criterion :: criteria) ↔
      criterion.Resolves zone schema ∧ AllResolve zone schema criteria :=
  List.forall_mem_cons

theorem resolveAll_eq_ok (all : AllResolve zone schema criteria) :
    resolveAll zone schema criteria =
      .ok (criteria.filterMap (Criterion.resolved? zone schema),
        criteria.filterMap (Criterion.dropped? zone schema)) := by
  induction criteria with
  | nil => rfl
  | cons criterion criteria ih =>
    obtain ⟨⟨outcome, h⟩, rest⟩ := allResolve_cons.mp all
    simp only [resolveAll, h, ih rest, bind, Except.bind]
    cases outcome <;> simp [Criterion.resolved?, Criterion.dropped?, h, pure, Except.pure]

theorem allResolve_of_resolveAll {outcome : List Resolved × List Dropped}
    (h : resolveAll zone schema criteria = .ok outcome) : AllResolve zone schema criteria := by
  induction criteria generalizing outcome with
  | nil => exact fun _ hmem => absurd hmem List.not_mem_nil
  | cons criterion criteria ih =>
    obtain ⟨first, hfirst, h⟩ := Steps.bind_eq_ok_iff.mp h
    obtain ⟨rest, hrest, _⟩ := Steps.bind_eq_ok_iff.mp h
    exact allResolve_cons.mpr ⟨⟨first, hfirst⟩, ih hrest⟩

theorem resolveAll_eq_ok_iff {resolved : List Resolved} {dropped : List Dropped} :
    resolveAll zone schema criteria = .ok (resolved, dropped) ↔
      AllResolve zone schema criteria ∧
        resolved = criteria.filterMap (Criterion.resolved? zone schema) ∧
        dropped = criteria.filterMap (Criterion.dropped? zone schema) := by
  constructor
  · intro h
    have all := allResolve_of_resolveAll h
    rw [resolveAll_eq_ok all] at h
    cases h
    exact ⟨all, rfl, rfl⟩
  · rintro ⟨all, rfl, rfl⟩
    exact resolveAll_eq_ok all

namespace ResidualEngine
variable {engine : ResidualEngine}

theorem select_eq_ok (all : AllResolve zone schema criteria) :
    engine.select zone schema criteria =
      .ok (engine.criteria (criteria.filterMap (Criterion.resolved? zone schema))) := by
  induction criteria with
  | nil => rfl
  | cons criterion criteria ih =>
    obtain ⟨⟨outcome, h⟩, rest⟩ := allResolve_cons.mp all
    simp only [select, h, ih rest, bind, Except.bind]
    cases outcome with
    | dropped dropped => simp [Criterion.resolved?, h, pure, Except.pure]
    | resolved resolved =>
      simp [Criterion.resolved?, h, ResidualEngine.criteria, List.filter_cons, pure, Except.pure]

end ResidualEngine

end Lists

end GridQuery
