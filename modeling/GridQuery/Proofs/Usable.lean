import GridQuery.Proofs.RawForm
import Mathlib

/-!
# What resolution promises

The stages behind resolution take a resolved criterion as it is.  What they rely on is that its operator is
one of its column's family, and that it has the values that the operator needs, and no others, in the form
that the column compares.  Coercion never refuses a number or a date that the catalog lets pass.
-/

namespace GridQuery

/-- A value has the form that columns of a type compare.  References are their texts, and structured values
may have any form. -/
def Value.FitsType (type : String) (value : Value) : Prop :=
  match Family.ofType type with
  | .numeric => ∃ x, value = .real x ∧ x.isFinite = true
  | .boolean => ∃ flag, value = .bool flag
  | .date => ∃ stamp, value = .time stamp ∧ stamp.offset.isSome = true
  | .text => ∃ text, value = .text text ∧ trimmed text = text
  | .reference => isStructured type = true ∨ coerceReference value = value
  | .other => isStructured type = true ∨ ∃ text, value = .text text ∧ trimmed text = text

theorem fitsType_of_coerce {zone : Zone} {type : String} {value coerced : Value}
    (hnull : value.isNull = false) (h : coerce zone type value = .ok (.usable coerced)) :
    coerced.FitsType type := by
  cases typeKind type with
  | numeric htype =>
    rw [Value.coerce_of_numeric htype hnull, Except.ok.injEq, Coerced.ofExcept_eq_usable_iff] at h
    obtain ⟨x, hx, rfl⟩ := h
    rw [Value.FitsType, htype]
    exact ⟨x, rfl, isFinite_of_toNumber hx⟩
  | date htype =>
    rw [Value.coerce_of_date htype hnull, Except.ok.injEq, Coerced.ofExcept_eq_usable_iff] at h
    obtain ⟨t, -, rfl⟩ := h
    rw [Value.FitsType, htype]
    exact ⟨_, rfl, rfl⟩
  | boolean htype =>
    subst htype
    rw [Value.coerce_of_boolean rfl hnull, coerceBoolean_eq_usable_iff] at h
    obtain ⟨flag, -, rfl⟩ := h
    exact ⟨flag, rfl⟩
  | structured htype =>
    have hkind : type = "json" ∨ type = "customArray" := by simpa [isStructured] using htype
    rcases hkind with rfl | rfl
    · exact .inl rfl
    · exact .inl rfl
  | reference htype =>
    subst htype
    rw [Value.coerce_reference hnull, Coerced.past_eq_usable_iff] at h
    cases h.1
    exact .inr (coerceReference_coerceReference value)
  | plain htype unstructured =>
    obtain ⟨text, -, rfl⟩ := eq_text_of_coerce htype unstructured hnull h
    rcases htype with htype | htype
    · rw [Value.FitsType, htype]
      exact ⟨_, rfl, trimmed_trimmed text⟩
    · rw [Value.FitsType, htype]
      exact .inr ⟨_, rfl, trimmed_trimmed text⟩

theorem Value.FitsType.isNull_eq_false {type : String} {value : Value} (h : value.FitsType type)
    (hfamily : Family.ofType type = .numeric ∨ Family.ofType type = .date) : value.isNull = false := by
  unfold FitsType at h
  rcases hfamily with hfamily | hfamily
  · rw [hfamily] at h
    obtain ⟨x, rfl, -⟩ := h
    rfl
  · rw [hfamily] at h
    obtain ⟨stamp, rfl, -⟩ := h
    rfl

/-- All that a resolved criterion promises. -/
structure Resolved.Usable (zone : Zone) (schema : Schema) (criterion : Criterion) (resolved : Resolved) :
    Prop where
  criterion_eq : resolved.criterion = criterion
  column_eq : schema.column? criterion.columnId = some resolved.column
  operator_eq : Operator.ofName? criterion.operator = some resolved.operator
  understood : resolved.operator ∈ resolved.column.family.operators
  value : if resolved.operator.isPeriod || resolved.operator.isPresence then resolved.value = .null
    else coerce zone resolved.column.type criterion.value = .ok (.usable resolved.value) ∧
      resolved.value.FitsType resolved.column.type
  secondValue : if resolved.operator.isRange then
      coerce zone resolved.column.type criterion.secondValue = .ok (.usable resolved.secondValue) ∧
        resolved.secondValue.FitsType resolved.column.type ∧ resolved.secondValue.isNull = false
    else resolved.secondValue = .null

namespace Operator
variable {operator : Operator}

theorem value_mem_fields_iff :
    .value ∈ operator.fields ↔ ¬(operator.isPeriod || operator.isPresence) = true := by
  cases operator <;> decide

theorem secondValue_mem_fields_iff : .secondValue ∈ operator.fields ↔ operator.isRange = true := by
  cases operator <;> decide

end Operator

namespace Criterion
variable {zone : Zone} {schema : Schema} {criterion : Criterion} {resolved : Resolved}

theorem coerced_eq_null (h : criterion.resolve zone schema = .ok (.resolved resolved))
    {field : ValueField} (hfield : field ∉ resolved.operator.fields) :
    field.coerced resolved = .null := by
  obtain ⟨-, -, -, values, hvalues, heq⟩ := resolve_eq_resolved h
  rcases resolved.operator.fields_cases with hnone | hone | htwo
  · rw [hnone] at hvalues
    obtain rfl : values = [] := by cases hvalues; rfl
    rw [heq]
    cases field <;> rfl
  · rw [hone] at hvalues hfield
    obtain ⟨value, rest, rfl, -, hrest⟩ := coerceFields_cons hvalues
    obtain rfl : rest = [] := by cases hrest; rfl
    cases field with
    | value => exact absurd (List.mem_singleton_self _) hfield
    | secondValue =>
      rw [heq]
      rfl
  · rw [htwo] at hfield
    exact absurd (by cases field <;> simp) hfield

theorem usable_of_resolve (h : criterion.resolve zone schema = .ok (.resolved resolved)) :
    resolved.Usable zone schema criterion := by
  obtain ⟨hcolumn, hoperator, -, values, -, heq⟩ := resolve_eq_resolved h
  obtain ⟨hnamed, hunderstood⟩ := operatorFor?_eq_some_iff.mp hoperator
  have hgiven {field : ValueField} (hfield : field ∈ resolved.operator.fields) :
      coerce zone resolved.column.type (field.of criterion) = .ok (.usable (field.coerced resolved)) ∧
        (field.coerced resolved).FitsType resolved.column.type := by
    obtain ⟨hnull, hcoerce⟩ := coerced_of_resolve h hfield
    exact ⟨hcoerce, fitsType_of_coerce hnull hcoerce⟩
  refine ⟨by rw [heq], hcolumn, hnamed, hunderstood, ?_, ?_⟩
  · split
    case isTrue hnone =>
      exact @coerced_eq_null _ _ _ _ h .value (mt Operator.value_mem_fields_iff.mp (not_not.mpr hnone))
    case isFalse hneeded => exact hgiven (Operator.value_mem_fields_iff.mpr hneeded)
  · split
    case isTrue hrange =>
      have hfield := Operator.secondValue_mem_fields_iff.mpr hrange
      obtain ⟨hcoerce, htype⟩ := hgiven hfield
      have hboth : resolved.operator.fields = [.value, .secondValue] := by
        rcases resolved.operator.fields_cases with hnone | hone | htwo
        · exact absurd hfield (by simp [hnone])
        · exact absurd hfield (by simp [hone])
        · exact htwo
      exact ⟨hcoerce, htype, htype.isNull_eq_false (Family.of_range _ hunderstood hboth)⟩
    case isFalse hone =>
      exact @coerced_eq_null _ _ _ _ h .secondValue (mt Operator.secondValue_mem_fields_iff.mp hone)

theorem coerceFields_of_usable {type : String} {fields : List ValueField}
    (h : ∀ field ∈ fields, ∃ value, coerce zone type (field.of criterion) = .ok (.usable value)) :
    ∃ values, coerceFields zone type criterion fields = .ok (.ok values) := by
  induction fields with
  | nil => exact ⟨[], rfl⟩
  | cons field fields ih =>
    obtain ⟨⟨value, hvalue⟩, hrest⟩ := List.forall_mem_cons.mp h
    obtain ⟨values, hvalues⟩ := ih hrest
    refine ⟨value :: values, ?_⟩
    rw [coerceFields, hvalue]
    simp only [hvalues]
    rfl

theorem isNull_of_fit {column : Column} {field : ValueField} {value : Value}
    (h : unfitValue? zone column field value = none) : value.isNull = false := by
  cases hnull : value.isNull with
  | true => simp [unfitValue?, hnull] at h
  | false => rfl

/-- What the catalog lets pass is not refused by coercion where numbers or dates are compared. -/
theorem usable_of_fit {column : Column} {field : ValueField} {value : Value}
    (hfamily : column.family = .numeric ∨ column.family = .date)
    (h : unfitValue? zone column field value = none) :
    ∃ coerced, coerce zone column.type value = .ok (.usable coerced) := by
  have hnull := isNull_of_fit h
  rcases hfamily with hfamily | hfamily
  · rw [Value.coerce_of_numeric hfamily hnull]
    cases hnumber : value.toNumber with
    | ok x => exact ⟨_, rfl⟩
    | error fault => simp [unfitValue?, hnull, hfamily, hnumber, Except.isOk, Except.toBool] at h
  · rw [Value.coerce_of_date hfamily hnull]
    cases hinstant : value.toInstant zone with
    | ok t => exact ⟨_, rfl⟩
    | error fault => simp [unfitValue?, hnull, hfamily, hinstant, Except.isOk, Except.toBool] at h

theorem mem_fields_of_boolean (field : ValueField) : ∀ operator ∈ Family.boolean.operators,
    field ∈ operator.fields ↔
      field = .value ∧ (operator.name = "equals" ∨ operator.name = "not_equals") := by
  cases field <;> decide

section Known
variable {column : Column} (hcolumn : schema.column? criterion.columnId = some column)
include hcolumn

theorem unfit_eq_nil_iff : criterion.unfit zone schema = [] ↔
    ∃ operator, operatorFor? criterion column = some operator ∧
      ∀ field ∈ operator.fields, unfitValue? zone column field (field.of criterion) = none := by
  cases hoperator : operatorFor? criterion column with
  | none => simp [unfit, hcolumn, hoperator]
  | some operator => simp [unfit, hcolumn, hoperator]

/-- A criterion that fits is resolved if the values that its operator needs can be used. -/
theorem exists_resolved_iff :
    (∃ resolved, criterion.resolve zone schema = .ok (.resolved resolved)) ↔
      criterion.unfit zone schema = [] ∧ ∀ operator, operatorFor? criterion column = some operator →
        ∀ field ∈ operator.fields, ∃ value,
          coerce zone column.type (field.of criterion) = .ok (.usable value) := by
  constructor
  · rintro ⟨resolved, h⟩
    obtain ⟨hsame, hoperator, hunfit, -⟩ := resolve_eq_resolved h
    obtain rfl := Option.some.inj (hcolumn.symm.trans hsame)
    refine ⟨hunfit, fun operator hnamed field hfield => ?_⟩
    obtain rfl := Option.some.inj (hoperator.symm.trans hnamed)
    exact ⟨_, (coerced_of_resolve h hfield).2⟩
  · rintro ⟨hunfit, husable⟩
    obtain ⟨operator, hoperator, -⟩ := (unfit_eq_nil_iff hcolumn).mp hunfit
    obtain ⟨values, hvalues⟩ := coerceFields_of_usable (husable operator hoperator)
    refine ⟨⟨criterion, column, operator, values.headD .null, values.getD 1 .null⟩, ?_⟩
    simp only [resolve, hunfit, hcolumn, hoperator, hvalues]
    rfl

theorem exists_resolved_iff_of_ordered (hfamily : column.family = .numeric ∨ column.family = .date) :
    (∃ resolved, criterion.resolve zone schema = .ok (.resolved resolved)) ↔
      criterion.unfit zone schema = [] := by
  rw [exists_resolved_iff hcolumn, and_iff_left_iff_imp]
  intro hunfit operator hoperator field hfield
  obtain ⟨fitting, hfitting, hfields⟩ := (unfit_eq_nil_iff hcolumn).mp hunfit
  obtain rfl := Option.some.inj (hoperator.symm.trans hfitting)
  exact usable_of_fit hfamily (hfields field hfield)

theorem exists_resolved_iff_of_boolean (hfamily : column.family = .boolean) :
    (∃ resolved, criterion.resolve zone schema = .ok (.resolved resolved)) ↔
      criterion.unfit zone schema = [] ∧
        (criterion.operator = "equals" ∨ criterion.operator = "not_equals" →
          ∃ flag, criterion.value.toBoolean = .ok flag) := by
  rw [exists_resolved_iff hcolumn]
  refine and_congr_right fun hunfit => ?_
  obtain ⟨operator, hoperator, hfields⟩ := (unfit_eq_nil_iff hcolumn).mp hunfit
  obtain ⟨hnamed, hunderstood⟩ := operatorFor?_eq_some_iff.mp hoperator
  rw [hfamily] at hunderstood
  simp only [hoperator, Option.some.injEq, forall_eq', mem_fields_of_boolean _ _ hunderstood,
    Operator.name_of_ofName? hnamed, and_imp, forall_eq]
  refine imp_congr_right fun hequality => ?_
  have hneeded := (mem_fields_of_boolean .value _ hunderstood).mpr
    ⟨rfl, by rwa [Operator.name_of_ofName? hnamed]⟩
  rw [Value.coerce_of_boolean hfamily (isNull_of_fit (hfields _ hneeded))]
  simp only [coerceBoolean_eq_usable_iff, ValueField.of]
  constructor
  · rintro ⟨_, flag, hflag, -⟩
    exact ⟨flag, hflag⟩
  · rintro ⟨flag, hflag⟩
    exact ⟨_, flag, hflag, rfl⟩

end Known

end Criterion

/-- A resolved criterion can be used as it is.  Where numbers or dates are compared, all criteria that fit are
resolved; where booleans are, those that need none or one that is spelled as such. -/
theorem resolution_isUsable (zone : Zone) (schema : Schema) (criterion : Criterion) :
    (∀ resolved, criterion.resolve zone schema = .ok (.resolved resolved) →
      resolved.Usable zone schema criterion) ∧
    ∀ column, schema.column? criterion.columnId = some column →
      (column.family = .numeric ∨ column.family = .date →
        ((∃ resolved, criterion.resolve zone schema = .ok (.resolved resolved)) ↔
          criterion.unfit zone schema = [])) ∧
      (column.family = .boolean →
        ((∃ resolved, criterion.resolve zone schema = .ok (.resolved resolved)) ↔
          criterion.unfit zone schema = [] ∧
            (criterion.operator = "equals" ∨ criterion.operator = "not_equals" →
              ∃ flag, criterion.value.toBoolean = .ok flag))) :=
  ⟨fun _ => Criterion.usable_of_resolve, fun _ hcolumn =>
    ⟨Criterion.exists_resolved_iff_of_ordered hcolumn, Criterion.exists_resolved_iff_of_boolean hcolumn⟩⟩

def tasks : Schema := ⟨[⟨1, "hours", "number", 0, none⟩, ⟨2, "done", "boolean", 1, none⟩]⟩

theorem resolution_isUsable_tasks :
    let short : Criterion := ⟨1, "between", .text " 1.5 ", .int 3, none, none, by decide, by decide⟩
    let done : Criterion := ⟨2, "equals", .int 1, .null, none, none, by decide, by decide⟩
    (∃ resolved, short.resolve .utc tasks = .ok (.resolved resolved) ∧
      resolved.Usable .utc tasks short) ∧
    ∃ resolved, done.resolve .utc tasks = .ok (.resolved resolved) ∧ resolved.Usable .utc tasks done := by
  intro short done
  have hshort : short.unfit .utc tasks = [] := by decide +kernel
  have hdone : done.unfit .utc tasks = [] := by decide +kernel
  have hspelled : done.value.toBoolean = .ok true := rfl
  obtain ⟨husable, hfits⟩ := resolution_isUsable .utc tasks short
  obtain ⟨resolved, hresolved⟩ := ((hfits ⟨1, "hours", "number", 0, none⟩ rfl).1 (.inl rfl)).mpr hshort
  obtain ⟨husable', hfits'⟩ := resolution_isUsable .utc tasks done
  obtain ⟨resolved', hresolved'⟩ :=
    ((hfits' ⟨2, "done", "boolean", 1, none⟩ rfl).2 rfl).mpr ⟨hdone, fun _ => ⟨true, hspelled⟩⟩
  exact ⟨⟨resolved, hresolved, husable resolved hresolved⟩, resolved', hresolved',
    husable' resolved' hresolved'⟩

end GridQuery
