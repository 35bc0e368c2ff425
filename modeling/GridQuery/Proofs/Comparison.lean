import GridQuery.Proofs.Constraint
import GridQuery.Proofs.Place
import GridQuery.Proofs.Store.Written
import GridQuery.Proofs.Truth
import Mathlib

/-!
# Compiled comparisons

A criterion that compares numbers, booleans or instants compiles to a condition on the projections of
cells.  The condition is true of a row exactly if the coerced value of the row's cell compares with
those of the criterion as the operator says; a row without such a value satisfies the negated operators
only.
-/

namespace GridQuery

/-- What a criterion asks of the coerced value of a row, which may be absent. -/
def Resolved.Asks (setting : Setting) (resolved : Resolved) (value : Option Value) : Prop :=
  match resolved.operator with
  | .equals => ∃ c ∈ value, c.Relates .equal resolved.value
  | .notEquals => ¬ ∃ c ∈ value, c.Relates .equal resolved.value
  | .greaterThan | .after => ∃ c ∈ value, c.Relates .greater resolved.value
  | .greaterThanOrEqual => ∃ c ∈ value, c.Relates .greaterOrEqual resolved.value
  | .lessThan | .before => ∃ c ∈ value, c.Relates .less resolved.value
  | .lessThanOrEqual => ∃ c ∈ value, c.Relates .lessOrEqual resolved.value
  | .between => ∃ c ∈ value,
    c.Relates .greaterOrEqual resolved.value ∧ c.Relates .lessOrEqual resolved.secondValue
  | .notBetween => ¬ ∃ c ∈ value,
    c.Relates .greaterOrEqual resolved.value ∧ c.Relates .lessOrEqual resolved.secondValue
  | .today | .yesterday | .thisWeek | .thisMonth | .thisYear => ∃ start stop,
    periodRange setting.zone resolved.operator setting.now = .ok (start, stop) ∧ ∃ c ∈ value,
      c.Relates .greaterOrEqual (.time start.toTimestamp) ∧
        c.Relates .lessOrEqual (.time stop.toTimestamp)
  | .isEmpty | .isNotEmpty | .contains | .notContains | .startsWith | .endsWith | .regex => False

/-- The families whose values have places on a line. -/
def Family.compared : List Family := [numeric, boolean, date]

namespace Resolved
variable {setting : Setting} {schema : Schema} {criterion : Criterion} {resolved : Resolved}
  {field : ValueField}

/-- The criterion compiles to a condition that asks for a cell that passes a test, or for none, and the
test reads what the criterion asks of a value. -/
def Comparable (setting : Setting) (resolved : Resolved) : Prop :=
  ∃ test p, CellTest.Reads setting.zone resolved.column.type test p ∧
    (resolved.condition? setting = .ok (some (.someCell resolved.column.id test)) ∧
        (∀ value, resolved.Asks setting value ↔ ∃ c ∈ value, p c) ∨
      resolved.condition? setting = .ok (some (.noCell resolved.column.id test)) ∧
        ∀ value, resolved.Asks setting value ↔ ¬ ∃ c ∈ value, p c)

section Values
variable (h : criterion.resolve setting.zone schema = .ok (.resolved resolved))
  (hfield : field ∈ resolved.operator.fields)
include h hfield

theorem coerced_of_numeric (hfamily : resolved.family = .numeric) :
    ∃ x, field.coerced resolved = .real x := by
  obtain ⟨hnull, hcoerce⟩ := Criterion.coerced_of_resolve h hfield
  rw [Value.coerce_of_numeric hfamily hnull, Except.ok.injEq] at hcoerce
  obtain ⟨x, _, hx⟩ := Coerced.ofExcept_eq_usable_iff.mp hcoerce
  exact ⟨x, hx⟩

theorem coerced_of_boolean (hfamily : resolved.family = .boolean) :
    ∃ b, field.coerced resolved = .bool b := by
  obtain ⟨hnull, hcoerce⟩ := Criterion.coerced_of_resolve h hfield
  rw [Value.coerce_of_boolean hfamily hnull] at hcoerce
  obtain ⟨flag, _, hflag⟩ := coerceBoolean_eq_usable_iff.mp hcoerce
  exact ⟨flag, hflag⟩

theorem coerced_of_date (hfamily : resolved.family = .date) :
    ∃ t : Instant, field.coerced resolved = .time t.toTimestamp := by
  obtain ⟨hnull, hcoerce⟩ := Criterion.coerced_of_resolve h hfield
  rw [Value.coerce_of_date hfamily hnull, Except.ok.injEq] at hcoerce
  obtain ⟨t, _, ht⟩ := Coerced.ofExcept_eq_usable_iff.mp hcoerce
  exact ⟨t, ht⟩

end Values

section Tests
variable (h : criterion.resolve setting.zone schema = .ok (.resolved resolved))
include h

theorem equalTest?_reads (hfields : .value ∈ resolved.operator.fields)
    (hfamily : resolved.family ∈ Family.compared) (hstorable : resolved.value.Storable) :
    ∃ test, resolved.equalTest? = some test ∧ test.Reads setting.zone resolved.column.type fun c =>
      c.Relates .equal resolved.value := by
  simp only [Family.compared, List.mem_cons, List.not_mem_nil, or_false] at hfamily
  rcases hfamily with hfamily | hfamily | hfamily
  · obtain ⟨x, hx⟩ := coerced_of_numeric h hfields hfamily
    have hx : resolved.value = .real x := hx
    rw [hx]
    exact ⟨_, by simp only [equalTest?, hfamily, hx], CellTest.reads_number hfamily x⟩
  · obtain ⟨b, hb⟩ := coerced_of_boolean h hfields hfamily
    have hb : resolved.value = .bool b := hb
    rw [hb]
    exact ⟨_, by simp only [equalTest?, hfamily, hb], CellTest.reads_flagIs hfamily b⟩
  · obtain ⟨t, ht⟩ := coerced_of_date h hfields hfamily
    have ht : resolved.value = .time t.toTimestamp := ht
    rw [ht] at hstorable ⊢
    refine ⟨.instant .equal t, ?_, CellTest.reads_instant hfamily (hstorable t rfl)⟩
    simp only [equalTest?, hfamily, ht, Value.instant?_time, Option.map_some]

theorem comparisonTest?_reads (comparison : Comparison)
    (hfields : .value ∈ resolved.operator.fields)
    (hfamily : resolved.family = .numeric ∨ resolved.family = .date)
    (hstorable : resolved.value.Storable) :
    ∃ test, resolved.comparisonTest? comparison = some test ∧
      test.Reads setting.zone resolved.column.type fun c => c.Relates comparison resolved.value := by
  rcases hfamily with hfamily | hfamily
  · obtain ⟨x, hx⟩ := coerced_of_numeric h hfields hfamily
    have hx : resolved.value = .real x := hx
    rw [hx]
    exact ⟨_, by simp only [comparisonTest?, hfamily, hx], CellTest.reads_number hfamily x⟩
  · obtain ⟨t, ht⟩ := coerced_of_date h hfields hfamily
    have ht : resolved.value = .time t.toTimestamp := ht
    rw [ht] at hstorable ⊢
    refine ⟨.instant comparison t, ?_, CellTest.reads_instant hfamily (hstorable t rfl)⟩
    simp only [comparisonTest?, hfamily, ht, Value.instant?_time, Option.map_some]

theorem rangeTest?_reads (hfields : resolved.operator.fields = [.value, .secondValue])
    (hfamily : resolved.family = .numeric ∨ resolved.family = .date)
    (hstorable : resolved.value.Storable) (hsecond : resolved.secondValue.Storable) :
    ∃ test, resolved.rangeTest? = some test ∧ test.Reads setting.zone resolved.column.type fun c =>
      c.Relates .greaterOrEqual resolved.value ∧ c.Relates .lessOrEqual resolved.secondValue := by
  have hfirst : ValueField.value ∈ resolved.operator.fields := by simp [hfields]
  have hlast : ValueField.secondValue ∈ resolved.operator.fields := by simp [hfields]
  rcases hfamily with hfamily | hfamily
  · obtain ⟨x, hx⟩ := coerced_of_numeric h hfirst hfamily
    obtain ⟨y, hy⟩ := coerced_of_numeric h hlast hfamily
    have hx : resolved.value = .real x := hx
    have hy : resolved.secondValue = .real y := hy
    rw [hx, hy]
    exact ⟨_, by simp only [rangeTest?, hfamily, hx, hy], CellTest.reads_numberWithin hfamily x y⟩
  · obtain ⟨t, ht⟩ := coerced_of_date h hfirst hfamily
    obtain ⟨u, hu⟩ := coerced_of_date h hlast hfamily
    have ht : resolved.value = .time t.toTimestamp := ht
    have hu : resolved.secondValue = .time u.toTimestamp := hu
    rw [ht] at hstorable ⊢
    rw [hu] at hsecond ⊢
    refine ⟨.instantWithin t u, ?_,
      CellTest.reads_instantWithin hfamily (hstorable t rfl) (hsecond u rfl)⟩
    simp only [rangeTest?, hfamily, ht, hu, Value.instant?_time]
    rfl

theorem comparable_of_equal (hfields : .value ∈ resolved.operator.fields)
    (hfamily : resolved.family ∈ Family.compared) (hstorable : resolved.value.Storable)
    (hcondition : resolved.condition? setting = .ok (resolved.someCell? resolved.equalTest?) ∧
        (∀ value, resolved.Asks setting value ↔ ∃ c ∈ value, c.Relates .equal resolved.value) ∨
      resolved.condition? setting = .ok (resolved.noCell? resolved.equalTest?) ∧
        ∀ value, resolved.Asks setting value ↔ ¬ ∃ c ∈ value, c.Relates .equal resolved.value) :
    resolved.Comparable setting := by
  obtain ⟨test, htest, reads⟩ := equalTest?_reads h hfields hfamily hstorable
  rw [htest] at hcondition
  exact ⟨test, _, reads, hcondition⟩

theorem comparable_of_ordered (comparison : Comparison) (hfields : .value ∈ resolved.operator.fields)
    (hfamily : resolved.family = .numeric ∨ resolved.family = .date)
    (hstorable : resolved.value.Storable)
    (hcondition : resolved.condition? setting =
      .ok (resolved.someCell? (resolved.comparisonTest? comparison)))
    (hasks : ∀ value, resolved.Asks setting value ↔
      ∃ c ∈ value, c.Relates comparison resolved.value) :
    resolved.Comparable setting := by
  obtain ⟨test, htest, reads⟩ := comparisonTest?_reads h comparison hfields hfamily hstorable
  rw [htest] at hcondition
  exact ⟨test, _, reads, .inl ⟨hcondition, hasks⟩⟩

theorem comparable_of_range (hfields : resolved.operator.fields = [.value, .secondValue])
    (hfamily : resolved.family = .numeric ∨ resolved.family = .date)
    (hstorable : resolved.value.Storable) (hsecond : resolved.secondValue.Storable)
    (hcondition : resolved.condition? setting = .ok (resolved.someCell? resolved.rangeTest?) ∧
        (∀ value, resolved.Asks setting value ↔ ∃ c ∈ value,
          c.Relates .greaterOrEqual resolved.value ∧ c.Relates .lessOrEqual resolved.secondValue) ∨
      resolved.condition? setting = .ok (resolved.noCell? resolved.rangeTest?) ∧
        ∀ value, resolved.Asks setting value ↔ ¬ ∃ c ∈ value,
          c.Relates .greaterOrEqual resolved.value ∧ c.Relates .lessOrEqual resolved.secondValue) :
    resolved.Comparable setting := by
  obtain ⟨test, htest, reads⟩ := rangeTest?_reads h hfields hfamily hstorable hsecond
  rw [htest] at hcondition
  exact ⟨test, _, reads, hcondition⟩

omit h in
theorem comparable_of_period (hfamily : resolved.family = .date)
    (hperiod : ∃ start stop,
      periodRange setting.zone resolved.operator setting.now = .ok (start, stop) ∧
        start.toUtc?.isSome ∧ stop.toUtc?.isSome)
    (hcondition : ∀ start stop,
      periodRange setting.zone resolved.operator setting.now = .ok (start, stop) →
        resolved.condition? setting =
          .ok (some (.someCell resolved.column.id (.instantWithin start stop))))
    (hasks : ∀ value, resolved.Asks setting value ↔ ∃ start stop,
      periodRange setting.zone resolved.operator setting.now = .ok (start, stop) ∧ ∃ c ∈ value,
        c.Relates .greaterOrEqual (.time start.toTimestamp) ∧
          c.Relates .lessOrEqual (.time stop.toTimestamp)) :
    resolved.Comparable setting := by
  obtain ⟨start, stop, hrange, hstart, hstop⟩ := hperiod
  refine ⟨_, _, CellTest.reads_instantWithin hfamily hstart hstop,
    .inl ⟨hcondition start stop hrange, ?_⟩⟩
  intro value
  rw [hasks, hrange]
  constructor
  · rintro ⟨_, _, heq, hvalue⟩
    cases heq
    exact hvalue
  · exact fun hvalue => ⟨start, stop, rfl, hvalue⟩

/-- Every comparison compiles to a condition that says what the criterion asks. -/
theorem comparable_of_resolve (hfamily : resolved.family ∈ Family.compared)
    (hpresence : resolved.operator.isPresence = false)
    (hvalue : resolved.value.Storable) (hsecond : resolved.secondValue.Storable)
    (hperiod : resolved.operator.isPeriod → ∃ start stop,
      periodRange setting.zone resolved.operator setting.now = .ok (start, stop) ∧
        start.toUtc?.isSome ∧ stop.toUtc?.isSome) :
    resolved.Comparable setting := by
  have hknown := Family.mem_constrained resolved.family resolved.operator (Criterion.operator_mem h)
  simp only [Family.compared, List.mem_cons, List.not_mem_nil, or_false] at hfamily
  have hordered (hboolean : Family.boolean ∉ resolved.operator.constrained) :
      resolved.family = .numeric ∨ resolved.family = .date := by
    rcases hfamily with hfamily | hfamily | hfamily
    · exact .inl hfamily
    · exact absurd (hfamily ▸ hknown) hboolean
    · exact .inr hfamily
  cases hoperator : resolved.operator with
  | isEmpty | isNotEmpty =>
    rw [hoperator] at hpresence
    cases hpresence
  | contains | notContains | startsWith | endsWith | regex =>
    rw [hoperator] at hknown
    rcases hfamily with hfamily | hfamily | hfamily <;> rw [hfamily] at hknown <;>
      exact absurd hknown (by decide)
  | equals =>
    refine comparable_of_equal h ?_ (by simp [Family.compared, hfamily]) hvalue (.inl ⟨?_, ?_⟩)
    · rw [hoperator]
      decide
    · rw [condition?, hoperator]
    · intro value
      simp only [Asks, hoperator]
  | notEquals =>
    refine comparable_of_equal h ?_ (by simp [Family.compared, hfamily]) hvalue (.inr ⟨?_, ?_⟩)
    · rw [hoperator]
      decide
    · rw [condition?, hoperator]
    · intro value
      simp only [Asks, hoperator]
  | greaterThan | greaterThanOrEqual | lessThan | lessThanOrEqual | before | after =>
    have hfields : ValueField.value ∈ resolved.operator.fields := by
      rw [hoperator]
      decide
    have hboth : resolved.family = .numeric ∨ resolved.family = .date :=
      hordered (by rw [hoperator]; decide)
    refine comparable_of_ordered h _ hfields hboth hvalue (by rw [condition?, hoperator]) ?_
    intro value
    simp only [Asks, hoperator]
  | between =>
    refine comparable_of_range h ?_ (hordered (by rw [hoperator]; decide)) hvalue hsecond (.inl ⟨?_, ?_⟩)
    · rw [hoperator]
      decide
    · rw [condition?, hoperator]
    · intro value
      simp only [Asks, hoperator]
  | notBetween =>
    refine comparable_of_range h ?_ (hordered (by rw [hoperator]; decide)) hvalue hsecond (.inr ⟨?_, ?_⟩)
    · rw [hoperator]
      decide
    · rw [condition?, hoperator]
    · intro value
      simp only [Asks, hoperator]
  | today | yesterday | thisWeek | thisMonth | thisYear =>
    have hdate : resolved.family = .date := by
      rw [hoperator] at hknown
      exact List.mem_singleton.mp hknown
    refine comparable_of_period hdate (hperiod (by rw [hoperator]; decide)) ?_ ?_
    · intro start stop hrange
      rw [hoperator] at hrange
      simp only [condition?, hoperator, hrange]
    · intro value
      simp only [Asks, hoperator]

end Tests

end Resolved

section Rows
variable {zone : Zone} {store : Store} {contents : Contents} {rowId columnId : Int} {type : String}
  {test : CellTest} {p : Value → Prop}
variable (written : store.Written zone contents) (htype : store.columnType columnId = type)
  (reads : test.Reads zone type p)
  (hcell : ∀ value, contents rowId columnId = some value → ∀ c, value.coerced? zone type = some c →
    c.Storable)
include written htype reads hcell

theorem Condition.someCell_truth_iff :
    (someCell columnId test).truth (store.cellsAt rowId) = some true ↔
      ∃ c ∈ (contents rowId columnId).bind (Value.coerced? zone type), p c := by
  rw [truth_eq_some_holds, Option.some.injEq, holds,
    written.any_cellsAt rowId columnId fun cell => test.holds cell, htype]
  cases hvalue : contents rowId columnId with
  | none => simp
  | some value => exact reads value (hcell value hvalue)

theorem Condition.noCell_truth_iff :
    (noCell columnId test).truth (store.cellsAt rowId) = some true ↔
      ¬ ∃ c ∈ (contents rowId columnId).bind (Value.coerced? zone type), p c := by
  rw [← someCell_truth_iff written htype reads hcell, truth_eq_some_holds, truth_eq_some_holds,
    Option.some.injEq, Option.some.injEq, Bool.not_eq_true]
  exact iff_of_eq (Bool.not_eq_true' _)

end Rows

section Criteria
variable {setting : Setting} {store : Store} {tableId rowId : Int} {schema : Schema}
  {contents : Contents} {criterion : Criterion} {resolved : Resolved}

/-- A compiled comparison is true of a row if and only if the coerced value written into the row's cell
compares with the coerced values of the criterion, or with the period at the time of the clock, as the
operator says.  All instants have to lie within the years of the calendar. -/
theorem Store.condition_refines_comparison
    (keyed : ((store.columns.getD []).map (·.2.id)).Nodup)
    (hschema : store.schema tableId = .ok schema) (written : store.Written setting.zone contents)
    (hresolve : criterion.resolve setting.zone schema = .ok (.resolved resolved))
    (hfamily : resolved.family ∈ Family.compared) (hpresence : resolved.operator.isPresence = false)
    (hvalue : resolved.value.Storable) (hsecond : resolved.secondValue.Storable)
    (hperiod : resolved.operator.isPeriod → ∃ start stop,
      periodRange setting.zone resolved.operator setting.now = .ok (start, stop) ∧
        start.toUtc?.isSome ∧ stop.toUtc?.isSome)
    (hcell : ∀ value, contents rowId resolved.column.id = some value →
      ∀ c, value.coerced? setting.zone resolved.column.type = some c → c.Storable) :
    ∃ condition, Constraints.standard.condition? setting resolved = .ok (some condition) ∧
      (condition.truth (store.cellsAt rowId) = some true ↔
        resolved.Asks setting ((contents rowId resolved.column.id).bind
          (Value.coerced? setting.zone resolved.column.type))) := by
  have hknown := Family.mem_constrained resolved.family resolved.operator
    (Criterion.operator_mem hresolve)
  have hcolumn := (Criterion.resolve_eq_resolved hresolve).1
  have hid : resolved.column.id = criterion.columnId := by simpa using List.find?_some hcolumn
  have htype : store.columnType resolved.column.id = resolved.column.type :=
    columnType_of_schema keyed hschema (hid ▸ hcolumn)
  rw [Constraints.standard_condition?_eq hknown]
  obtain ⟨test, p, reads, ⟨hcondition, hasks⟩ | ⟨hcondition, hasks⟩⟩ :=
    Resolved.comparable_of_resolve hresolve hfamily hpresence hvalue hsecond hperiod
  · refine ⟨_, hcondition, ?_⟩
    rw [hasks]
    exact Condition.someCell_truth_iff written htype reads hcell
  · refine ⟨_, hcondition, ?_⟩
    rw [hasks]
    exact Condition.noCell_truth_iff written htype reads hcell

def Store.answers : Store :=
  ((empty.addTable 7).addColumn 7 ⟨1, "done", "boolean", 0, none⟩).insertRow .utc
    ⟨1, 7, ⟨0, Reading.zero_lt⟩⟩ [(1, .bool true)]

def Resolved.isDone : Resolved where
  criterion := ⟨1, "not_equals", .int 0, .null, none, none, Int.zero_lt_one, by decide⟩
  column := ⟨1, "done", "boolean", 0, none⟩
  operator := .notEquals
  value := .bool false
  secondValue := .null

theorem Store.condition_refines_comparison_answers :
    let setting : Setting := ⟨.utc, ⟨⟨0, by decide⟩, none⟩, ⟨true⟩⟩
    ∃ condition, Constraints.standard.condition? setting .isDone = .ok (some condition) ∧
      (condition.truth (answers.cellsAt 1) = some true ↔
        Resolved.isDone.Asks setting (some (.bool true))) := by
  intro setting
  have hschema : answers.schema 7 = .ok ⟨[⟨1, "done", "boolean", 0, none⟩]⟩ := by cbv
  have hresolve : Resolved.isDone.criterion.resolve .utc ⟨[⟨1, "done", "boolean", 0, none⟩]⟩ =
      .ok (.resolved .isDone) := by cbv
  have grown : Grown .utc answers (Contents.writeRow (fun _ _ => none) 1 [(1, .bool true)]) :=
    .insertRow _ _ (.addColumn 7 _ (.addTable 7 .empty) (by simp [addTable, empty, emptyOf])
      (by simp [addTable, empty, emptyOf]))
  have hflag (b : Bool) : (Value.bool b).Storable := fun _ h => by cases h
  have hnull : Value.null.Storable := fun _ h => by cases h
  have hfamily : Resolved.isDone.family ∈ Family.compared := by decide
  have hperiod : ¬ Resolved.isDone.operator.isPeriod := by decide
  refine @condition_refines_comparison setting answers 7 1 _ _ _ .isDone grown.keyed hschema grown.written
    hresolve hfamily rfl (hflag false) hnull (fun h => absurd h hperiod) ?_
  intro value hvalue c hc
  cases hvalue
  cases hc
  exact hflag true

end Criteria

end GridQuery
