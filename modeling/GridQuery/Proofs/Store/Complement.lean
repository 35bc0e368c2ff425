import GridQuery.Proofs.Constraint
import GridQuery.Proofs.Predicate
import GridQuery.Proofs.Store.Fetch
import GridQuery.Proofs.Truth
import Mathlib

/-!
# Opposite operators

Some operators come in pairs, one of which asks for a cell that the other one rules out.  With the same
values both resolve and compile alike, so that every row of a table satisfies exactly one of the two,
whatever cells it has, and the two counts add up to the size of the table.
-/

namespace GridQuery

def Operator.opposite? : Operator → Option Operator
  | .equals => some .notEquals
  | .notEquals => some .equals
  | .between => some .notBetween
  | .notBetween => some .between
  | .isEmpty => some .isNotEmpty
  | .isNotEmpty => some .isEmpty
  | _ => none

/-- Two criteria ask for the opposite of one column with the same values. -/
structure Criterion.Opposes (c d : Criterion) : Prop where
  operators : ∃ a b, c.operator = Operator.name a ∧ d.operator = Operator.name b ∧
    a.opposite? = some b
  columnId : c.columnId = d.columnId
  value : c.value = d.value
  secondValue : c.secondValue = d.secondValue

namespace Operator
variable {a b : Operator}

theorem opposite_alike (h : a.opposite? = some b) :
    a.fields = b.fields ∧ ∀ family : Family, a ∈ family.operators → b ∈ family.operators := by
  cases a <;> cases h <;>
    exact ⟨rfl, fun family => by cases family <;> decide⟩

end Operator

namespace Criterion
variable {zone : Zone} {schema : Schema} {c d : Criterion} {resolved : Resolved}

theorem Opposes.fieldOf_eq (h : c.Opposes d) (field : ValueField) : field.of c = field.of d := by
  cases field with
  | value => exact h.value
  | secondValue => exact h.secondValue

theorem coerceFields_congr (h : ∀ field : ValueField, field.of c = field.of d) (type : String)
    (fields : List ValueField) :
    coerceFields zone type c fields = coerceFields zone type d fields := by
  induction fields with
  | nil => rfl
  | cons field fields ih => rw [coerceFields, coerceFields, h field, ih]

/-- What opposes a criterion that resolves does so as well, with the same column and values. -/
theorem Opposes.resolve_eq (h : c.Opposes d)
    (hresolve : c.resolve zone schema = .ok (.resolved resolved)) :
    ∃ b, resolved.operator.opposite? = some b ∧
      d.resolve zone schema = .ok (.resolved { resolved with criterion := d, operator := b }) := by
  obtain ⟨a, b, ha, hb, hopposite⟩ := h.operators
  obtain ⟨hcolumn, hoperator, hunfit, values, hvalues, hresolved⟩ := resolve_eq_resolved hresolve
  obtain ⟨hname, hknown⟩ := operatorFor?_eq_some_iff.mp hoperator
  rw [ha, Operator.ofName?_name, Option.some.injEq] at hname
  rw [← hname] at hoperator hknown hvalues hresolved ⊢
  obtain ⟨hfields, hfamilies⟩ := Operator.opposite_alike hopposite
  have hcolumn' : schema.column? d.columnId = some resolved.column := h.columnId ▸ hcolumn
  have hoperator' : operatorFor? d resolved.column = some b :=
    operatorFor?_eq_some_iff.mpr ⟨by rw [hb, Operator.ofName?_name], hfamilies _ hknown⟩
  have hunfit' : d.unfit zone schema = [] := by
    unfold unfit at hunfit ⊢
    simp only [hcolumn, hoperator] at hunfit
    simp only [hcolumn', hoperator', ← hfields, ← h.fieldOf_eq]
    exact hunfit
  refine ⟨b, hopposite, ?_⟩
  unfold resolve
  rw [hunfit', hcolumn']
  simp only [hoperator', ← hfields, ← coerceFields_congr h.fieldOf_eq, hvalues]
  rw [hresolved]
  rfl

end Criterion

/-- One condition asks for a cell that passes a test, the other one for none. -/
inductive Condition.Opposes : Condition → Condition → Prop
  | some {columnId test} : Opposes (.someCell columnId test) (.noCell columnId test)
  | none {columnId test} : Opposes (.noCell columnId test) (.someCell columnId test)

namespace Condition
variable {condition other : Condition}

/-- A row satisfies exactly one of two opposite conditions, whatever is unknown about its cells. -/
theorem Opposes.truth_eq (h : condition.Opposes other) (cells : List (Int × Projections)) :
    other.truth cells = not3 (condition.truth cells) := by
  rw [truth_eq_some_holds, truth_eq_some_holds, not3, Option.map_some]
  cases h with
  | some => rfl
  | none => rw [holds, holds, Bool.not_not]

theorem Opposes.holds_eq (h : condition.Opposes other) (cells : List (Int × Projections)) :
    other.holds cells = !condition.holds cells := by
  have htruth := h.truth_eq cells
  rwa [truth_eq_some_holds, truth_eq_some_holds, not3, Option.map_some, Option.some.injEq] at htruth

theorem Opposes.instants_eq (h : condition.Opposes other) : other.instants = condition.instants := by
  cases h <;> rfl

end Condition

namespace Resolved
variable {setting : Setting} {resolved : Resolved} {criterion : Criterion} {b : Operator}

theorem condition?_opposite (hopposite : resolved.operator.opposite? = some b) :
    let other : Resolved := { resolved with criterion, operator := b }
    ∃ test, resolved.condition? setting = .ok (resolved.someCell? test) ∧
        other.condition? setting = .ok (resolved.noCell? test) ∨
      resolved.condition? setting = .ok (resolved.noCell? test) ∧
        other.condition? setting = .ok (resolved.someCell? test) := by
  intro other
  cases hoperator : resolved.operator with
  | equals =>
    rw [hoperator] at hopposite
    cases hopposite
    exact ⟨resolved.equalTest?, .inl ⟨by rw [condition?, hoperator], rfl⟩⟩
  | notEquals =>
    rw [hoperator] at hopposite
    cases hopposite
    exact ⟨resolved.equalTest?, .inr ⟨by rw [condition?, hoperator], rfl⟩⟩
  | between =>
    rw [hoperator] at hopposite
    cases hopposite
    exact ⟨resolved.rangeTest?, .inl ⟨by rw [condition?, hoperator], rfl⟩⟩
  | notBetween =>
    rw [hoperator] at hopposite
    cases hopposite
    exact ⟨resolved.rangeTest?, .inr ⟨by rw [condition?, hoperator], rfl⟩⟩
  | isEmpty =>
    rw [hoperator] at hopposite
    cases hopposite
    exact ⟨some .hasText, .inr ⟨by rw [condition?, hoperator]; rfl, rfl⟩⟩
  | isNotEmpty =>
    rw [hoperator] at hopposite
    cases hopposite
    exact ⟨some .hasText, .inl ⟨by rw [condition?, hoperator]; rfl, rfl⟩⟩
  | _ =>
    rw [hoperator] at hopposite
    cases hopposite

theorem standard_condition?_opposite (hopposite : resolved.operator.opposite? = some b)
    (hknown : resolved.operator ∈ resolved.family.operators) :
    let other : Resolved := { resolved with criterion, operator := b }
    Constraints.standard.condition? setting resolved = .ok none ∧
        Constraints.standard.condition? setting other = .ok none ∨
      ∃ c d, Constraints.standard.condition? setting resolved = .ok (some c) ∧
        Constraints.standard.condition? setting other = .ok (some d) ∧ c.Opposes d := by
  intro other
  have hfamily := resolved.family.mem_constrained resolved.operator hknown
  have hfamily' : other.family ∈ other.operator.constrained :=
    resolved.family.mem_constrained b ((Operator.opposite_alike hopposite).2 _ hknown)
  rw [Constraints.standard_condition?_eq hfamily, Constraints.standard_condition?_eq hfamily']
  obtain ⟨test, hboth⟩ := condition?_opposite hopposite
  cases test with
  | none =>
    rcases hboth with hboth | hboth
    · exact .inl hboth
    · exact .inl hboth
  | some test =>
    rcases hboth with ⟨hsome, hnone⟩ | ⟨hnone, hsome⟩
    · exact .inr ⟨_, _, hsome, hnone, .some⟩
    · exact .inr ⟨_, _, hnone, hsome, .none⟩

end Resolved

namespace Predicate
variable {setting : Setting} {schema : Schema} {criterion : Criterion} {resolved : Resolved}
  {condition : Condition}

theorem ofCriteria_singleton (tableId : Int)
    (h : criterion.resolve setting.zone schema = .ok (.resolved resolved))
    (hcondition : Constraints.standard.condition? setting resolved = .ok (some condition)) :
    ofCriteria .standard setting schema tableId [criterion] "" =
      .ok ⟨tableId, [condition], [resolved], []⟩ := by
  have hresolved := Criterion.resolved?_eq_some_iff.mpr h
  have hdropped : criterion.dropped? setting.zone schema = none := by
    simp [Criterion.dropped?, h]
  refine ofCriteria_eq_ok_iff.mpr ⟨?_, ?_⟩
  · intro other hmem
    obtain rfl := List.mem_singleton.mp hmem
    refine ⟨⟨_, h⟩, fun found hfound => ?_⟩
    obtain rfl := Option.some.inj (hresolved.symm.trans hfound)
    exact ⟨_, hcondition⟩
  · simp [built, Criterion.condition?, hresolved, hdropped, Constraints.compiled?, hcondition,
      Condition.search?, trimmed, Text.trim, Text.trimBy]

end Predicate

namespace Store
variable {store : Store} {tableId : Int} {c d : Condition} {r s : Resolved}

theorem Accepts.opposite (h : c.Opposes d) (accepts : store.Accepts ⟨tableId, [c], [r], []⟩ []) :
    store.Accepts ⟨tableId, [d], [s], []⟩ [] := by
  refine ⟨?_, accepts.rows, fun _ => accepts.cells (List.cons_ne_nil c []), accepts.integers⟩
  have hinstants := accepts.instants
  simpa [Predicate.instants, h.instants_eq] using hinstants

theorem mem_matching_singleton_iff {row : StoredRow} :
    row ∈ store.matching ⟨tableId, [c], [r], []⟩ ↔
      row ∈ store.rows.getD [] ∧ row.tableId = tableId ∧
        c.truth (store.cellsAt row.id) = some true := by
  simp [matching, Predicate.holds, Condition.truth_eq_some_holds]

theorem count_opposite (h : c.Opposes d) {total : Nat}
    (hcount : store.count ⟨tableId, [c], [r], []⟩ = .ok total) :
    ∃ others, store.count ⟨tableId, [d], [s], []⟩ = .ok others ∧
      store.countTable tableId = .ok (total + others) := by
  obtain ⟨accepts, rfl⟩ := count_eq_ok_iff.mp hcount
  refine ⟨_, count_eq_ok_iff.mpr ⟨accepts.opposite h, rfl⟩, ?_⟩
  obtain ⟨rows, hrows⟩ := Option.isSome_iff_exists.mp accepts.rows
  have hfits : checkIntegers [tableId] = .ok () := checkIntegers_eq_ok_iff.mpr accepts.integers
  have hsplit := List.length_eq_length_filter_add (l := rows.filter (·.tableId == tableId))
    fun row => c.holds (store.cellsAt row.id)
  simp only [countTable, hrows, part, hfits, bind, Except.bind, pure, Except.pure, Except.ok.injEq,
    matching, Option.getD_some, Predicate.holds, List.all_cons, List.all_nil, Bool.and_true,
    h.holds_eq]
  rw [hsplit, List.filter_filter, List.filter_filter]
  simp only [Bool.and_comm]

/-- Criteria that oppose each other resolve alike.  Either both put no condition on rows, or each row
satisfies exactly one of the two conditions, whatever cells it has; then the rows of a table are divided
between the two, and the two counts make up its size. -/
theorem opposites_partition (setting : Setting) (schema : Schema) {c d : Criterion}
    (opposes : c.Opposes d) {resolved : Resolved}
    (h : c.resolve setting.zone schema = .ok (.resolved resolved)) :
    ∃ other, d.resolve setting.zone schema = .ok (.resolved other) ∧
      (Constraints.standard.condition? setting resolved = .ok none ∧
          Constraints.standard.condition? setting other = .ok none ∨
        ∃ condition opposite,
          Constraints.standard.condition? setting resolved = .ok (some condition) ∧
          Constraints.standard.condition? setting other = .ok (some opposite) ∧
          (∀ cells, condition.truth cells = some true ∧ opposite.truth cells = some false ∨
            condition.truth cells = some false ∧ opposite.truth cells = some true) ∧
          ∀ tableId, ∃ first second,
            Predicate.ofCriteria .standard setting schema tableId [c] "" = .ok first ∧
            Predicate.ofCriteria .standard setting schema tableId [d] "" = .ok second ∧
            ∀ store : Store,
              (∀ row ∈ store.rows.getD [], row.tableId = tableId →
                (row ∈ store.matching first ↔ row ∉ store.matching second)) ∧
              ∀ total, store.count first = .ok total → ∃ others, store.count second = .ok others ∧
                store.countTable tableId = .ok (total + others)) := by
  obtain ⟨b, hopposite, hother⟩ := opposes.resolve_eq h
  refine ⟨_, hother, ?_⟩
  rcases Resolved.standard_condition?_opposite hopposite (Criterion.operator_mem h) with
    hnone | ⟨condition, opposite, hcondition, hcondition', hopposes⟩
  · exact .inl hnone
  · have hexact (cells : List (Int × Projections)) :
        condition.truth cells = some true ∧ opposite.truth cells = some false ∨
          condition.truth cells = some false ∧ opposite.truth cells = some true := by
      rw [hopposes.truth_eq, Condition.truth_eq_some_holds]
      cases condition.holds cells with
      | true => exact .inl ⟨rfl, rfl⟩
      | false => exact .inr ⟨rfl, rfl⟩
    refine .inr ⟨condition, opposite, hcondition, hcondition', hexact, fun tableId => ?_⟩
    refine ⟨_, _, Predicate.ofCriteria_singleton tableId h hcondition,
      Predicate.ofCriteria_singleton tableId hother hcondition', fun store => ⟨?_, ?_⟩⟩
    · intro row hrow htable
      rw [mem_matching_singleton_iff, mem_matching_singleton_iff]
      rcases hexact (store.cellsAt row.id) with ⟨htrue, hfalse⟩ | ⟨hfalse, htrue⟩
      · simp [hrow, htable, htrue, hfalse]
      · simp [hrow, htable, htrue, hfalse]
    · intro total hcount
      exact count_opposite hopposes hcount

/-- A table of payments: one made, one without a cell, one with a null and one with a value that is no
boolean. -/
def payments : Store :=
  let table := (empty.addTable 7).addColumn 7 ⟨1, "paid", "boolean", 0, none⟩
  [(1, [(1, .bool true)]), (2, []), (3, [(1, .null)]), (4, [(1, .text "maybe")])].foldl
    (fun store row => store.insertRow .utc ⟨row.1, 7, ⟨0, Reading.zero_lt⟩⟩ row.2) table

theorem opposites_partition_payments :
    let setting : Setting := ⟨.utc, ⟨⟨0, Reading.zero_lt⟩, none⟩, ⟨true⟩⟩
    let schema : Schema := ⟨[⟨1, "paid", "boolean", 0, none⟩]⟩
    let paid : Criterion :=
      ⟨1, "equals", .bool true, .null, none, none, Int.zero_lt_one, by decide⟩
    let unpaid : Criterion :=
      ⟨1, "not_equals", .bool true, .null, none, none, Int.zero_lt_one, by decide⟩
    ∃ first second, Predicate.ofCriteria .standard setting schema 7 [paid] "" = .ok first ∧
      Predicate.ofCriteria .standard setting schema 7 [unpaid] "" = .ok second ∧
      payments.count first = .ok 1 ∧ payments.count second = .ok 3 ∧
      payments.countTable 7 = .ok 4 := by
  intro setting schema paid unpaid
  let resolved : Resolved := ⟨paid, ⟨1, "paid", "boolean", 0, none⟩, .equals, .bool true, .null⟩
  have opposes : paid.Opposes unpaid := ⟨⟨.equals, .notEquals, rfl, rfl, rfl⟩, rfl, rfl, rfl⟩
  have hresolve : paid.resolve setting.zone schema = .ok (.resolved resolved) := by cbv
  have hcondition : Constraints.standard.condition? setting resolved =
      .ok (some (.someCell 1 (.flagIs true))) := by cbv
  obtain ⟨other, -, ⟨hnone, -⟩ | ⟨condition, opposite, -, -, -, hpredicates⟩⟩ :=
    opposites_partition setting schema opposes hresolve
  · rw [hcondition] at hnone
    cases hnone
  · obtain ⟨first, second, hfirst, hsecond, hstore⟩ := hpredicates 7
    have hpaid := Predicate.ofCriteria_singleton 7 hresolve hcondition
    obtain rfl := Except.ok.inj (hfirst.symm.trans hpaid)
    have hcount : payments.count ⟨7, [.someCell 1 (.flagIs true)], [resolved], []⟩ = .ok 1 := by cbv
    have htable : payments.countTable 7 = .ok 4 := by cbv
    obtain ⟨others, hothers, htotal⟩ := (hstore payments).2 1 hcount
    rw [htable, Except.ok.injEq] at htotal
    obtain rfl : others = 3 := by omega
    exact ⟨_, second, hfirst, hsecond, hcount, hothers, htable⟩

end Store

end GridQuery
