import GridQuery.Proofs.RawForm
import GridQuery.Proofs.Store.Instants
import Mathlib.Data.List.Forall2
import Mathlib.Tactic.Choose

/-!
# One instant under several offsets

A store keeps an instant as a text that tells its moment and nothing of the offset.  The texts sort as the
moments do, what comes back is the same moment, and filters that name a moment in different ways let the same
rows through.
-/

namespace GridQuery

namespace Instant
variable {s t : Instant}

theorem toUtc?_congr (h : s.micros = t.micros) : s.toUtc? = t.toUtc? := by
  unfold toUtc?
  rw [h]

theorem storedText?_congr (h : s.micros = t.micros) : s.storedText? = t.storedText? := by
  unfold storedText?
  rw [toUtc?_congr h]

end Instant

/-- Two tests let the same cells pass, and a store can be given both or neither. -/
structure CellTest.Same (a b : CellTest) : Prop where
  holds : ∀ cell, a.holds cell = b.holds cell
  instants : (∀ t ∈ a.instants, t.toUtc?.isSome) ↔ ∀ t ∈ b.instants, t.toUtc?.isSome

structure Condition.Same (a b : Condition) : Prop where
  holds : ∀ cells, a.holds cells = b.holds cells
  instants : (∀ t ∈ a.instants, t.toUtc?.isSome) ↔ ∀ t ∈ b.instants, t.toUtc?.isSome

/-- Two coerced values are the same, but for the offset of an instant. -/
def Value.SameTime (u v : Value) : Prop :=
  u = v ∨ ∃ s t : Instant, u = .time s.toTimestamp ∧ v = .time t.toTimestamp ∧ s.micros = t.micros

def Value.SameInstant (zone : Zone) (u v : Value) : Prop :=
  ∃ s t : Instant, u.toInstant zone = .ok s ∧ v.toInstant zone = .ok t ∧ s.micros = t.micros

/-- Two criteria are the same, or ask for the same of one column of dates with values that name the same
instants. -/
def Criterion.SameInstants (zone : Zone) (schema : Schema) (c d : Criterion) : Prop :=
  c = d ∨ c.columnId = d.columnId ∧ c.operator = d.operator ∧ ∃ column,
    schema.column? c.columnId = some column ∧ column.family = .date ∧
      ∀ operator, operatorFor? c column = some operator → ∀ field ∈ operator.fields,
        (field.of c).SameInstant zone (field.of d)

namespace CellTest
variable {s s' t t' : Instant}

theorem Same.refl (test : CellTest) : test.Same test := ⟨fun _ => rfl, Iff.rfl⟩

theorem same_instant (comparison : Comparison) (h : s.micros = t.micros) :
    (instant comparison s).Same (instant comparison t) := by
  constructor
  · intro cell
    simp only [CellTest.holds, compareInstants, Instant.storedText?_congr h]
  · simp only [CellTest.instants, List.forall_mem_singleton, Instant.toUtc?_congr h]

theorem same_instantWithin (h : s.micros = t.micros) (h' : s'.micros = t'.micros) :
    (instantWithin s s').Same (instantWithin t t') := by
  constructor
  · intro cell
    simp only [CellTest.holds, compareInstants, Instant.storedText?_congr h, Instant.storedText?_congr h']
  · simp only [CellTest.instants, List.forall_mem_cons, Instant.toUtc?_congr h, Instant.toUtc?_congr h']

section Optional
variable {x x' y y' : Option Instant} (h : Option.Rel (fun s t : Instant => s.micros = t.micros) x y)
  (h' : Option.Rel (fun s t : Instant => s.micros = t.micros) x' y')
include h

theorem rel_instant (comparison : Comparison) :
    Option.Rel Same (x.map (.instant comparison)) (y.map (.instant comparison)) := by
  cases h with
  | none => exact .none
  | some h => exact .some (same_instant comparison h)

include h'

theorem rel_instantWithin : Option.Rel Same (do return .instantWithin (← x) (← x'))
    (do return .instantWithin (← y) (← y')) := by
  cases h with
  | none => exact .none
  | some h =>
    cases h' with
    | none => exact .none
    | some h' => exact .some (same_instantWithin h h')

end Optional

end CellTest

namespace Condition

theorem Same.refl (condition : Condition) : condition.Same condition := ⟨fun _ => rfl, Iff.rfl⟩

theorem rel_refl (condition : Option Condition) : Option.Rel Same condition condition := by
  cases condition with
  | none => exact .none
  | some condition => exact .some (.refl condition)

theorem same_someCell {a b : CellTest} (h : a.Same b) (id : Int) : (someCell id a).Same (someCell id b) where
  holds cells := by simp only [Condition.holds, h.holds]
  instants := h.instants

theorem same_noCell {a b : CellTest} (h : a.Same b) (id : Int) : (noCell id a).Same (noCell id b) where
  holds cells := by simp only [Condition.holds, h.holds]
  instants := h.instants

section Optional
variable {x y : Option Condition} (h : Option.Rel Same x y)
include h

theorem all_of_rel (cells : List (Int × Projections)) :
    x.all (Condition.holds cells) = y.all (Condition.holds cells) := by
  cases h with
  | none => rfl
  | some h => exact h.holds cells

theorem instants_of_rel :
    (∀ condition, x = some condition → ∀ t ∈ condition.instants, t.toUtc?.isSome) ↔
      ∀ condition, y = some condition → ∀ t ∈ condition.instants, t.toUtc?.isSome := by
  cases h with
  | none => exact Iff.rfl
  | some h => simpa only [Option.some.injEq, forall_eq'] using h.instants

theorem eq_none_of_rel : x = none ↔ y = none := by
  cases h with
  | none => exact Iff.rfl
  | some h => exact iff_of_false (Option.some_ne_none _) (Option.some_ne_none _)

end Optional

end Condition

theorem Value.isNull_of_toInstant {zone : Zone} {value : Value} {t : Instant}
    (h : value.toInstant zone = .ok t) : value.isNull = false := by
  cases value with
  | null => cases h
  | _ => rfl

namespace Criterion
variable {zone : Zone} {schema : Schema} {c d : Criterion} {column : Column} {operator : Operator}
  {times : ValueField → Instant}

theorem coerceFields_of_instants {type : String} (hfamily : Family.ofType type = .date)
    {fields : List ValueField} (htimes : ∀ field ∈ fields, (field.of c).toInstant zone = .ok (times field)) :
    coerceFields zone type c fields =
      .ok (.ok (fields.map fun field => .time (times field).toTimestamp)) := by
  induction fields with
  | nil => rfl
  | cons field fields ih =>
    obtain ⟨hfield, hfields⟩ := List.forall_mem_cons.mp htimes
    have hcoerce : coerce zone type (field.of c) = .ok (.usable (.time (times field).toTimestamp)) := by
      rw [Value.coerce_of_date hfamily (Value.isNull_of_toInstant hfield), hfield]
      rfl
    rw [coerceFields, hcoerce, ih hfields]
    rfl

theorem resolve_of_instants (hcolumn : schema.column? c.columnId = some column)
    (hfamily : column.family = .date) (hoperator : operatorFor? c column = some operator)
    (htimes : ∀ field ∈ operator.fields, (field.of c).toInstant zone = .ok (times field)) :
    c.resolve zone schema = .ok (.resolved ⟨c, column, operator,
      (operator.fields.map fun field => .time (times field).toTimestamp).headD .null,
      (operator.fields.map fun field => .time (times field).toTimestamp).getD 1 .null⟩) := by
  have hunfit : c.unfit zone schema = [] := by
    unfold unfit
    simp only [hcolumn, hoperator, List.filterMap_eq_nil_iff]
    intro field hfield
    have htime := htimes field hfield
    simp only [unfitValue?, Value.isNull_of_toInstant htime, hfamily, htime]
    rfl
  unfold resolve
  rw [hunfit, hcolumn]
  simp only [hoperator, coerceFields_of_instants hfamily htimes]
  rfl

theorem resolve_of_operatorFor?_eq_none (hcolumn : schema.column? c.columnId = some column)
    (hoperator : operatorFor? c column = none) : c.resolved? zone schema = none ∧ c.Resolves zone schema := by
  have hunfit : c.unfit zone schema = [.incompatible c.operator column.type] := by
    simp only [unfit, hcolumn, hoperator]
  have hresolve : c.resolve zone schema = .ok (.dropped ⟨c, [.unfit (.incompatible c.operator column.type)]⟩) := by
    unfold resolve
    rw [hunfit]
    rfl
  refine ⟨?_, _, hresolve⟩
  rw [resolved?, hresolve]

end Criterion

/-- Two resolved criteria are the same, but for the offsets of their instants. -/
structure Resolved.Same (a b : Resolved) : Prop where
  column : a.column = b.column
  operator : a.operator = b.operator
  value : a.value.SameTime b.value
  secondValue : a.secondValue.SameTime b.secondValue

theorem Value.SameTime.rel_instant? {u v : Value} (h : u.SameTime v) :
    Option.Rel (fun s t : Instant => s.micros = t.micros) u.instant? v.instant? := by
  rcases h with rfl | ⟨s, t, rfl, rfl, hmicros⟩
  · cases u.instant? with
    | none => exact .none
    | some t => exact .some rfl
  · rw [instant?_time, instant?_time]
    exact .some hmicros

namespace Resolved
variable {setting : Setting} {a b : Resolved} (same : a.Same b) (hfamily : a.family = .date)
include same

theorem Same.family_eq : b.family = a.family := congrArg Column.family same.column.symm

include hfamily

theorem Same.equalTest? : Option.Rel CellTest.Same a.equalTest? b.equalTest? := by
  have hfamily' := same.family_eq.trans hfamily
  unfold Resolved.equalTest?
  simp only [hfamily, hfamily']
  exact CellTest.rel_instant same.value.rel_instant? .equal

theorem Same.comparisonTest? (comparison : Comparison) :
    Option.Rel CellTest.Same (a.comparisonTest? comparison) (b.comparisonTest? comparison) := by
  have hfamily' := same.family_eq.trans hfamily
  unfold Resolved.comparisonTest?
  simp only [hfamily, hfamily']
  exact CellTest.rel_instant same.value.rel_instant? comparison

theorem Same.rangeTest? : Option.Rel CellTest.Same a.rangeTest? b.rangeTest? := by
  have hfamily' := same.family_eq.trans hfamily
  unfold Resolved.rangeTest?
  simp only [hfamily, hfamily']
  exact CellTest.rel_instantWithin same.value.rel_instant? same.secondValue.rel_instant?

omit hfamily in
theorem Same.someCell? {test test' : Option CellTest} (h : Option.Rel CellTest.Same test test') :
    Option.Rel Condition.Same (a.someCell? test) (b.someCell? test') := by
  unfold Resolved.someCell?
  rw [← same.column]
  cases h with
  | none => exact .none
  | some h => exact .some (Condition.same_someCell h _)

omit hfamily in
theorem Same.noCell? {test test' : Option CellTest} (h : Option.Rel CellTest.Same test test') :
    Option.Rel Condition.Same (a.noCell? test) (b.noCell? test') := by
  unfold Resolved.noCell?
  rw [← same.column]
  cases h with
  | none => exact .none
  | some h => exact .some (Condition.same_noCell h _)

omit hfamily in
/-- Neither the bounds of a period nor what is asked about texts depends on the values. -/
theorem Same.condition?_of_fields (hfields : a.operator.fields = [])
    (hplain : a.operator ∈ Family.operators .date) :
    b.condition? setting = a.condition? setting := by
  have hcolumn := same.column
  have hoperator := same.operator
  cases hop : a.operator with
  | today | yesterday | thisWeek | thisMonth | thisYear | isEmpty | isNotEmpty =>
    rw [hop] at hoperator
    simp only [Resolved.condition?, hop, ← hoperator, hcolumn]
  | equals | notEquals | before | after | between | notBetween =>
    rw [hop] at hfields
    cases hfields
  | _ =>
    rw [hop] at hplain
    exact absurd hplain (by decide)

theorem Same.condition? (hknown : a.operator ∈ Family.operators .date) :
    (∃ fault, a.condition? setting = .error fault ∧ b.condition? setting = .error fault) ∨
      ∃ condition other, a.condition? setting = .ok condition ∧ b.condition? setting = .ok other ∧
        Option.Rel Condition.Same condition other := by
  have hoperator := same.operator
  by_cases hfields : a.operator.fields = []
  · rw [same.condition?_of_fields hfields hknown]
    cases a.condition? setting with
    | error fault => exact .inl ⟨fault, rfl, rfl⟩
    | ok condition => exact .inr ⟨condition, condition, rfl, rfl, Condition.rel_refl condition⟩
  · right
    cases hop : a.operator with
    | equals =>
      rw [hop] at hoperator
      exact ⟨_, _, by simp only [Resolved.condition?, hop], by simp only [Resolved.condition?, ← hoperator],
        same.someCell? (same.equalTest? hfamily)⟩
    | notEquals =>
      rw [hop] at hoperator
      exact ⟨_, _, by simp only [Resolved.condition?, hop], by simp only [Resolved.condition?, ← hoperator],
        same.noCell? (same.equalTest? hfamily)⟩
    | before =>
      rw [hop] at hoperator
      exact ⟨_, _, by simp only [Resolved.condition?, hop], by simp only [Resolved.condition?, ← hoperator],
        same.someCell? (same.comparisonTest? hfamily .less)⟩
    | after =>
      rw [hop] at hoperator
      exact ⟨_, _, by simp only [Resolved.condition?, hop], by simp only [Resolved.condition?, ← hoperator],
        same.someCell? (same.comparisonTest? hfamily .greater)⟩
    | between =>
      rw [hop] at hoperator
      exact ⟨_, _, by simp only [Resolved.condition?, hop], by simp only [Resolved.condition?, ← hoperator],
        same.someCell? (same.rangeTest? hfamily)⟩
    | notBetween =>
      rw [hop] at hoperator
      exact ⟨_, _, by simp only [Resolved.condition?, hop], by simp only [Resolved.condition?, ← hoperator],
        same.noCell? (same.rangeTest? hfamily)⟩
    | today | yesterday | thisWeek | thisMonth | thisYear | isEmpty | isNotEmpty =>
      rw [hop] at hfields
      exact absurd rfl hfields
    | _ =>
      rw [hop] at hknown
      exact absurd hknown (by decide)

theorem Same.compiles_iff (hknown : a.operator ∈ Family.operators .date) :
    (Constraints.standard.Compiles setting a ↔ Constraints.standard.Compiles setting b) ∧
      Option.Rel Condition.Same (Constraints.standard.compiled? setting a)
        (Constraints.standard.compiled? setting b) := by
  have hconstrained : a.family ∈ a.operator.constrained :=
    Family.mem_constrained a.family a.operator (hfamily ▸ hknown)
  have hconstrained' : b.family ∈ b.operator.constrained := by
    rw [same.family_eq, ← same.operator]
    exact hconstrained
  unfold Constraints.Compiles Constraints.compiled?
  rw [Constraints.standard_condition?_eq hconstrained, Constraints.standard_condition?_eq hconstrained']
  rcases @Same.condition? setting a b same hfamily hknown with
    ⟨fault, ha, hb⟩ | ⟨condition, other, ha, hb, hrel⟩
  · rw [ha, hb]
    exact ⟨Iff.rfl, .none⟩
  · rw [ha, hb]
    exact ⟨iff_of_true ⟨_, rfl⟩ ⟨_, rfl⟩, hrel⟩

end Resolved

namespace Criterion
variable {setting : Setting} {zone : Zone} {schema : Schema} {c d : Criterion}

/-- Criteria that name the same instants are the same, or both are dropped, or both resolve to the same but
for the offsets. -/
theorem SameInstants.resolve_cases (h : c.SameInstants zone schema d) :
    c = d ∨ ((c.resolved? zone schema = none ∧ c.Resolves zone schema) ∧
        d.resolved? zone schema = none ∧ d.Resolves zone schema) ∨
      ∃ a b, c.resolve zone schema = .ok (.resolved a) ∧ d.resolve zone schema = .ok (.resolved b) ∧
        a.family = .date ∧ a.Same b := by
  rcases h with rfl | ⟨hid, hname, column, hcolumn, hfamily, hvalues⟩
  · exact .inl rfl
  have hcolumn' : schema.column? d.columnId = some column := hid ▸ hcolumn
  have hsame : operatorFor? d column = operatorFor? c column := by
    unfold operatorFor?
    rw [hname]
  right
  cases hoperator : operatorFor? c column with
  | none =>
    exact .inl ⟨resolve_of_operatorFor?_eq_none hcolumn hoperator,
      resolve_of_operatorFor?_eq_none hcolumn' (hsame.trans hoperator)⟩
  | some operator =>
    have : Nonempty Instant := ⟨.ofUtc ⟨0, Reading.zero_lt⟩⟩
    choose! s t hs ht hmicros using hvalues operator hoperator
    refine .inr ⟨_, _, resolve_of_instants hcolumn hfamily hoperator hs,
      resolve_of_instants hcolumn' hfamily (hsame.trans hoperator) ht, hfamily, rfl, rfl, ?_, ?_⟩
    · dsimp only
      rcases operator.fields_cases with hnone | hone | htwo
      · rw [hnone]
        exact .inl rfl
      · rw [hone] at hmicros ⊢
        exact .inr ⟨s .value, t .value, rfl, rfl, hmicros .value List.mem_cons_self⟩
      · rw [htwo] at hmicros ⊢
        exact .inr ⟨s .value, t .value, rfl, rfl, hmicros .value List.mem_cons_self⟩
    · dsimp only
      rcases operator.fields_cases with hnone | hone | htwo
      · rw [hnone]
        exact .inl rfl
      · rw [hone]
        exact .inl rfl
      · rw [htwo] at hmicros ⊢
        exact .inr ⟨s .secondValue, t .secondValue, rfl, rfl,
          hmicros .secondValue (List.mem_cons_of_mem _ List.mem_cons_self)⟩

theorem operator_mem_of_date {a : Resolved} (h : c.resolve zone schema = .ok (.resolved a))
    (hfamily : a.family = .date) : a.operator ∈ Family.operators .date :=
  hfamily ▸ operator_mem h

section Alike
variable (h : c.SameInstants setting.zone schema d)
include h

theorem SameInstants.builds_iff :
    c.Builds .standard setting schema ↔ d.Builds .standard setting schema := by
  unfold Builds
  rcases h.resolve_cases with rfl | ⟨⟨hc, hresolves⟩, hd, hresolves'⟩ | ⟨a, b, ha, hb, hfamily, same⟩
  · exact Iff.rfl
  · rw [hc, hd]
    exact iff_of_true ⟨hresolves, nofun⟩ ⟨hresolves', nofun⟩
  · have hcompiles :=
      (@Resolved.Same.compiles_iff setting a b same hfamily (operator_mem_of_date ha hfamily)).1
    rw [resolved?_eq_some_iff.mpr ha, resolved?_eq_some_iff.mpr hb]
    simp only [Option.some.injEq, forall_eq', hcompiles]
    exact and_congr_left fun _ => iff_of_true ⟨_, ha⟩ ⟨_, hb⟩

theorem SameInstants.rel_condition? : Option.Rel Condition.Same (c.condition? .standard setting schema)
    (d.condition? .standard setting schema) := by
  unfold condition?
  rcases h.resolve_cases with rfl | ⟨⟨hc, -⟩, hd, -⟩ | ⟨a, b, ha, hb, hfamily, same⟩
  · exact Condition.rel_refl _
  · rw [hc, hd]
    exact .none
  · rw [resolved?_eq_some_iff.mpr ha, resolved?_eq_some_iff.mpr hb]
    exact (same.compiles_iff hfamily (operator_mem_of_date ha hfamily)).2

theorem SameInstants.keeps_eq (engine : ResidualEngine) (row : Row) :
    engine.keeps setting.zone schema row c = engine.keeps setting.zone schema row d := by
  unfold ResidualEngine.keeps
  rcases h.resolve_cases with rfl | ⟨⟨hc, -⟩, hd, -⟩ | ⟨a, b, ha, hb, hfamily, same⟩
  · rfl
  · rw [hc, hd]
  · have ha' : engine.concerns a = false := by
      rw [ResidualEngine.concerns, hfamily]
      rfl
    have hb' : engine.concerns b = false := by
      rw [ResidualEngine.concerns, same.family_eq, hfamily]
      rfl
    rw [resolved?_eq_some_iff.mpr ha, resolved?_eq_some_iff.mpr hb, Option.all_some, Option.all_some, ha', hb']
    rfl

end Alike

end Criterion

theorem forall_mem_iff_of_forall₂ {α : Type} {r : α → α → Prop} {p : α → Prop} {l l' : List α}
    (h : List.Forall₂ r l l') (hp : ∀ a b, r a b → (p a ↔ p b)) : (∀ a ∈ l, p a) ↔ ∀ b ∈ l', p b := by
  induction h with
  | nil => exact Iff.rfl
  | cons hab _ ih => rw [List.forall_mem_cons, List.forall_mem_cons, hp _ _ hab, ih]

namespace Store
variable {store : Store} {setting : Setting} {schema : Schema} {tableId : Int} {search : String}
  {order : RowOrder} {criteria criteria' : List Criterion}

theorem Runs.of_sameInstants (h : List.Forall₂ (Criterion.SameInstants setting.zone schema) criteria criteria') :
    store.Runs setting schema tableId search criteria ↔
      store.Runs setting schema tableId search criteria' := by
  have hbuilds := @forall_mem_iff_of_forall₂ _ _ (Criterion.Builds .standard setting schema) _ _ h
    fun _ _ same => same.builds_iff
  have hinstants := forall_mem_iff_of_forall₂ h fun _ _ same =>
    Condition.instants_of_rel same.rel_condition?
  have hnone := forall_mem_iff_of_forall₂ h fun _ _ same =>
    Condition.eq_none_of_rel same.rel_condition?
  constructor
  · rintro ⟨builds, instants, rows, integers, cells⟩
    rw [hnone] at cells
    exact ⟨hbuilds.mp builds, hinstants.mp instants, rows, integers, cells⟩
  · rintro ⟨builds, instants, rows, integers, cells⟩
    rw [← hnone] at cells
    exact ⟨hbuilds.mpr builds, hinstants.mpr instants, rows, integers, cells⟩

theorem survivors_of_sameInstants
    (h : List.Forall₂ (Criterion.SameInstants setting.zone schema) criteria criteria') (rows : List Row) :
    store.survivors setting schema tableId search order criteria = .ok rows ↔
      store.survivors setting schema tableId search order criteria' = .ok rows := by
  have hadmits : (fun row => criteria.all (store.admits setting schema row)) =
      fun row => criteria'.all (store.admits setting schema row) := by
    funext row
    rw [Bool.eq_iff_iff, List.all_eq_true, List.all_eq_true]
    refine forall_mem_iff_of_forall₂ h fun c d same => ?_
    unfold admits
    rw [Condition.all_of_rel same.rel_condition?, same.keeps_eq]
  rw [survivors_eq_ok_iff, survivors_eq_ok_iff, Runs.of_sameInstants h, hadmits]

end Store

namespace Value
variable {zone : Zone} {a b : Instant}

/-- An instant that is a whole number of milliseconds after the start of 1970 is named by that number. -/
theorem toInstant_int {n : Int} (hmicros : a.micros = epochMicros + n * 1000) (ha : a.toUtc?.isSome) :
    ∃ t : Instant, (Value.int n).toInstant zone = .ok t ∧ t.micros = a.micros := by
  obtain ⟨utc, hutc⟩ := Option.isSome_iff_exists.mp ha
  have hbounds := Reading.ofMicros?_isSome_iff.mp ha
  have hepoch : epochMicros = 719162 * 86400000000 := rfl
  have hdays : Int.fdiv (n * 1000) 86400000000 = n * 1000 / 86400000000 :=
    Int.fdiv_eq_ediv_of_nonneg _ (by decide)
  have htime : Instant.ofEpoch (n * 1000) = .ok (.ofUtc utc) := by
    unfold Instant.ofEpoch
    dsimp only
    rw [if_neg (by omega), if_neg (by omega), ← hmicros]
    rw [show Reading.ofMicros? a.micros = some utc from hutc]
  refine ⟨.ofUtc utc, ?_, ?_⟩
  · rw [toInstant, htime]
    rfl
  · rw [← Reading.micros_of_toUtc? hutc]
    exact Int.sub_zero _

theorem toInstant_isoText_of_kept (h : a.offset.Kept) : (Value.text a.isoText).toInstant zone = .ok a := by
  rw [toInstant_isoText, Iso.reread_eq_self_iff.mpr h]

end Value

/-- The stored texts of two instants compare as their moments, and an instant comes back in UTC as the same
moment.  The ISO texts of a moment under different offsets and its milliseconds name the same instant, and
criteria that name the same instants leave the same rows. -/
theorem Store.storedText_order {a b : Instant} (ha : a.toUtc?.isSome) (hb : b.toUtc?.isSome) :
    (∃ r s : Reading, (r.micros : Int) = a.micros ∧ (s.micros : Int) = b.micros ∧
      a.storedText? = some r.sortableText ∧ b.storedText? = some s.sortableText ∧
      compare r.sortableText s.sortableText = compare a.micros b.micros) ∧
    (∃ back, a.toTimestamp.restored = .ok back ∧ back.offset = .utc ∧ back.micros = a.micros) ∧
    (∀ zone, a.micros = b.micros → a.offset.Kept → b.offset.Kept →
      (Value.text a.isoText).SameInstant zone (.text b.isoText) ∧
      ∀ n : Int, a.micros = epochMicros + n * 1000 → (Value.text b.isoText).SameInstant zone (.int n)) ∧
    ∀ (store : Store) (setting : Setting) (schema : Schema) (tableId : Int) (search : String)
      (order : RowOrder) (criteria criteria' : List Criterion),
      List.Forall₂ (Criterion.SameInstants setting.zone schema) criteria criteria' → ∀ rows,
        (store.survivors setting schema tableId search order criteria = .ok rows ↔
          store.survivors setting schema tableId search order criteria' = .ok rows) := by
  obtain ⟨r, hr⟩ := Option.isSome_iff_exists.mp ha
  obtain ⟨s, hs⟩ := Option.isSome_iff_exists.mp hb
  have hrm := Reading.micros_of_toUtc? hr
  have hsm := Reading.micros_of_toUtc? hs
  refine ⟨⟨r, s, hrm, hsm, ?_, ?_, ?_⟩, ⟨.ofUtc r, ?_, rfl, ?_⟩, ?_, ?_⟩
  · rw [Instant.storedText?, hr, Option.map_some]
  · rw [Instant.storedText?, hs, Option.map_some]
  · rw [Reading.compare_sortableText, compare_natCast, hrm, hsm]
  · rw [Timestamp.restored, Timestamp.stored, Instant.toTimestamp]
    dsimp only
    rw [hr]
    rfl
  · rw [← hrm]
    exact Int.sub_zero _
  · intro zone hmicros hkept hkept'
    refine ⟨⟨a, b, Value.toInstant_isoText_of_kept hkept, Value.toInstant_isoText_of_kept hkept', hmicros⟩, ?_⟩
    intro n hn
    obtain ⟨t, ht, htm⟩ := @Value.toInstant_int zone a n hn ha
    exact ⟨b, t, Value.toInstant_isoText_of_kept hkept', ht, hmicros.symm.trans htm.symm⟩
  · intro store setting schema tableId search order criteria criteria' h rows
    exact survivors_of_sameInstants h rows

def newYear : Instant := .ofUtc lateMidnight.reading

/-- The same moment on a clock five and three quarter hours ahead. -/
def newYearMorning : Instant := ⟨⟨738885 * 86400000000 + 20700000000, by decide⟩, ⟨20700000000, by decide⟩⟩

/-- The criterion that a visit came after an instant that a value names. -/
def visitAfter (value : Value) : Criterion :=
  ⟨1, "after", value, .null, none, none, Int.zero_lt_one, by decide⟩

def marchVisit : Store :=
  ((Store.empty.addTable 7).addColumn 7 ⟨1, "day", "date", 0, none⟩).insertRow .utc
    ⟨1, 7, ⟨0, Reading.zero_lt⟩⟩ [(1, .int 1710028800000)]

/-- The visit is found, be it asked for by the text of the moment or by its milliseconds. -/
theorem Store.storedText_order_newYear :
    let setting : Setting := ⟨.utc, ⟨⟨0, Reading.zero_lt⟩, none⟩, ⟨true⟩⟩
    let schema : Schema := ⟨[⟨1, "day", "date", 0, none⟩]⟩
    let found := marchVisit.rowView (marchVisit.cells.getD []) ⟨1, 7, ⟨0, Reading.zero_lt⟩⟩
    newYear.toUtc?.isSome ∧ newYearMorning.toUtc?.isSome ∧
      marchVisit.survivors setting schema 7 "" ⟨.id, false⟩ [visitAfter (.text newYearMorning.isoText)] =
        .ok [found] ∧
      marchVisit.survivors setting schema 7 "" ⟨.id, false⟩ [visitAfter (.int 1704067200000)] =
        .ok [found] := by
  intro setting schema found
  have hnew : newYear.toUtc?.isSome := rfl
  have hmorning : newYearMorning.toUtc?.isSome := rfl
  have hfound : marchVisit.survivors setting schema 7 "" ⟨.id, false⟩ [visitAfter (.int 1704067200000)] =
      .ok [found] := by cbv
  obtain ⟨-, -, named, rows⟩ := storedText_order hnew hmorning
  have hnamed := (named .utc rfl (.inl rfl) (.inr (by decide))).2 1704067200000 rfl
  have hsame : Criterion.SameInstants .utc schema (visitAfter (.text newYearMorning.isoText))
      (visitAfter (.int 1704067200000)) := by
    refine .inr ⟨rfl, rfl, _, rfl, rfl, ?_⟩
    intro operator hoperator field hfield
    have hafter : operatorFor? (visitAfter (.text newYearMorning.isoText)) ⟨1, "day", "date", 0, none⟩ =
        some .after := rfl
    obtain rfl : .after = operator := Option.some.inj (hafter.symm.trans hoperator)
    obtain rfl := List.mem_singleton.mp hfield
    exact hnamed
  exact ⟨hnew, hmorning, (rows marchVisit setting schema 7 "" _ _ _ (.cons hsame .nil) _).mpr hfound, hfound⟩

end GridQuery
