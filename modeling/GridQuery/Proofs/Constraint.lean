import GridQuery.Proofs.Coercion
import GridQuery.Store.Assembly

/-!
# What criteria compile to

The standard constraints know an operator for exactly the families that it constrains.  A criterion
whose operator is left to the residual pass asks the store for a value in its column, and for nothing
if its text is empty; the residual pass makes the same exception.
-/

namespace GridQuery

namespace Constraints

theorem mem_register_iff {constraints : Constraints} {operator : Operator} {pair : Operator × Family} :
    pair ∈ (constraints.register operator).pairs ↔
      pair ∈ constraints.pairs ∨ pair.1 = operator ∧ pair.2 ∈ operator.constrained := by
  obtain ⟨other, family⟩ := pair
  simp only [register, List.mem_eraseDups, List.mem_append, List.mem_map, Prod.mk.injEq]
  constructor
  · rintro (h | ⟨_, h, rfl, rfl⟩)
    · exact .inl h
    · exact .inr ⟨rfl, h⟩
  · rintro (h | ⟨rfl, h⟩)
    · exact .inl h
    · exact .inr ⟨_, h, rfl, rfl⟩

theorem mem_foldl_register_iff {constraints : Constraints} {operators : List Operator}
    {pair : Operator × Family} :
    pair ∈ (operators.foldl register constraints).pairs ↔
      pair ∈ constraints.pairs ∨ pair.1 ∈ operators ∧ pair.2 ∈ pair.1.constrained := by
  induction operators generalizing constraints with
  | nil => simp
  | cons operator operators ih =>
    rw [List.foldl_cons, ih, mem_register_iff, List.mem_cons]
    constructor
    · rintro ((h | ⟨rfl, h⟩) | ⟨hmem, h⟩)
      · exact .inl h
      · exact .inr ⟨.inl rfl, h⟩
      · exact .inr ⟨.inr hmem, h⟩
    · rintro (h | ⟨rfl | hmem, h⟩)
      · exact .inl (.inl h)
      · exact .inl (.inr ⟨rfl, h⟩)
      · exact .inr ⟨hmem, h⟩

theorem operator_mem_all (operator : Operator) : operator ∈ Operator.all := by
  cases operator <;> decide

theorem standard_has_iff {operator : Operator} {family : Family} :
    standard.has operator family ↔ family ∈ operator.constrained := by
  rw [has, List.contains_iff_mem, standard, mem_foldl_register_iff]
  simp [empty, operator_mem_all]

theorem standard_condition?_eq {setting : Setting} {resolved : Resolved}
    (h : resolved.family ∈ resolved.operator.constrained) :
    standard.condition? setting resolved = resolved.condition? setting :=
  if_pos (standard_has_iff.mpr h)

end Constraints

theorem Family.mem_constrained (family : Family) :
    ∀ operator ∈ family.operators, family ∈ operator.constrained := by
  cases family <;> decide

theorem Value.canonicalText?_isSome {value : Value} (h : value.isNull = false) (type : String) :
    (value.canonicalText? type).isSome := by
  cases value with
  | null => cases h
  | list items =>
    unfold canonicalText?
    simp only
    split <;> rfl
  | _ => rfl

theorem Value.canonicalText?_eq_of_ne {value : Value} {type other : String} (htype : type ≠ "reference")
    (hother : other ≠ "reference") : value.canonicalText? type = value.canonicalText? other := by
  cases value with
  | list items => rw [canonicalText?, canonicalText?, if_neg htype, if_neg hother]
  | _ => rfl

/-- A value that is usable where texts are compared is its trimmed canonical text. -/
theorem eq_text_of_coerce {zone : Zone} {type : String} {value coerced : Value}
    (hplain : Family.ofType type = .text ∨ Family.ofType type = .other)
    (unstructured : isStructured type = false) (hnull : value.isNull = false)
    (h : coerce zone type value = .ok (.usable coerced)) :
    ∃ text, value.canonicalText? "" = some text ∧ coerced = .text (trimmed text) := by
  obtain ⟨text, htext⟩ := Option.isSome_iff_exists.mp (Value.canonicalText?_isSome hnull "")
  rw [Value.coerce_of_plain hplain unstructured hnull, coerceText, htext,
    Coerced.past_eq_usable_iff] at h
  exact ⟨text, htext, (Coerced.usable.inj h.1).symm⟩

namespace Capabilities
variable {capabilities : Capabilities} {operator : Operator}

theorem mem_residualOperators_iff :
    operator ∈ capabilities.residualOperators ↔
      operator ∈ Operator.lexical ∨ operator = .regex ∧ capabilities.regex = false := by
  obtain ⟨regex⟩ := capabilities
  cases regex <;> simp [residualOperators]

theorem residual_cases (h : operator ∈ capabilities.residualOperators) :
    operator.fields = [.value] ∧ operator.constrained = [.text] := by
  rcases mem_residualOperators_iff.mp h with h | ⟨rfl, _⟩
  · simp only [Operator.lexical, List.mem_cons, List.not_mem_nil, or_false] at h
    rcases h with rfl | rfl | rfl | rfl <;> exact ⟨rfl, rfl⟩
  · exact ⟨rfl, rfl⟩

end Capabilities

theorem Resolved.instants_patternCondition {resolved : Resolved} {capabilities : Capabilities}
    {pattern : String} : (resolved.patternCondition capabilities pattern).instants = [] := by
  unfold patternCondition
  split
  · rfl
  · split <;> rfl

section TextCriteria
variable {setting : Setting} {schema : Schema} {criterion : Criterion} {resolved : Resolved}

theorem Criterion.family_eq_text (h : criterion.resolve setting.zone schema = .ok (.resolved resolved))
    (hoperator : resolved.operator ∈ setting.capabilities.residualOperators) :
    resolved.family = .text := by
  have hknown := Family.mem_constrained resolved.family resolved.operator (operator_mem h)
  rw [(Capabilities.residual_cases hoperator).2] at hknown
  exact List.mem_singleton.mp hknown

theorem Criterion.value_eq_text (h : criterion.resolve setting.zone schema = .ok (.resolved resolved))
    (hoperator : resolved.operator ∈ setting.capabilities.residualOperators) :
    ∃ text, resolved.value = .text text := by
  have hfamily := family_eq_text h hoperator
  have hmem : ValueField.value ∈ resolved.operator.fields := by
    rw [(Capabilities.residual_cases hoperator).1]
    exact List.mem_singleton_self _
  obtain ⟨hnull, hcoerce⟩ := coerced_of_resolve h hmem
  obtain ⟨text, _, htext⟩ :=
    eq_text_of_coerce (.inl hfamily) (Family.isStructured_of_text hfamily) hnull hcoerce
  exact ⟨_, htext⟩

theorem Resolved.condition?_of_residual {text : String} (hfamily : resolved.family = .text)
    (hoperator : resolved.operator ∈ setting.capabilities.residualOperators)
    (hvalue : resolved.value = .text text) :
    Constraints.standard.condition? setting resolved =
      .ok (if text = "" then none else some (.someCell resolved.column.id .hasText)) := by
  have hknown : resolved.family ∈ resolved.operator.constrained := by
    rw [hfamily, (Capabilities.residual_cases hoperator).2]
    exact List.mem_singleton_self _
  rw [Constraints.standard_condition?_eq hknown, Resolved.condition?]
  rcases Capabilities.mem_residualOperators_iff.mp hoperator with hlexical | ⟨hregex, hnative⟩
  · simp only [Operator.lexical, List.mem_cons, List.not_mem_nil, or_false] at hlexical
    rcases hlexical with h | h | h | h <;> simp [h, hvalue, textCondition?]
  · simp [hregex, hvalue, textCondition?, patternCondition, hnative]

end TextCriteria

namespace ResidualEngine
variable {setting : Setting} {schema : Schema} {criterion : Criterion} {resolved : Resolved}

/-- A criterion on text that is left to the residual pass concerns the pass exactly if it puts a
condition on the store. -/
theorem concerns_iff_condition? (h : criterion.resolve setting.zone schema = .ok (.resolved resolved))
    (hoperator : resolved.operator ∈ setting.capabilities.residualOperators) :
    setting.capabilities.engine.concerns resolved ↔
      Constraints.standard.condition? setting resolved ≠ .ok none := by
  have hfamily := criterion.family_eq_text h hoperator
  obtain ⟨text, hvalue⟩ := criterion.value_eq_text h hoperator
  rw [Resolved.condition?_of_residual hfamily hoperator hvalue]
  by_cases hempty : text = "" <;>
    simp [concerns, hfamily, Capabilities.engine, hoperator, hvalue, Residual.isGiven, hempty]

end ResidualEngine

end GridQuery
