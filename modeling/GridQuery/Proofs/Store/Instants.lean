import GridQuery.Proofs.Calendar.Utc
import GridQuery.Proofs.Comparison
import GridQuery.Proofs.Store.Survivors
import Mathlib

/-!
# Instants given to a store

A store keeps instants on a clock in UTC, which ends with the years of the calendar.  A value is coerced
on its own clock: one with an offset can name an instant that lies outside, and then the whole request
fails.  `InCalendar` says which values do not, and `Sendable` which criteria.
-/

namespace GridQuery

/-- The instant of a timestamp with an offset lies within the years of the calendar in UTC. -/
def Timestamp.InCalendar (stamp : Timestamp) : Prop :=
  ∀ offset, stamp.offset = some offset → 0 ≤ (stamp.reading.micros : Int) - offset.micros ∧
    (stamp.reading.micros : Int) - offset.micros < 3652059 * 86400000000

theorem Zone.toUtc?_isSome_iff_inCalendar {zone : Zone} {stamp : Timestamp} {t : Instant}
    (h : zone.instantOf stamp = .ok t) : t.toUtc?.isSome ↔ stamp.InCalendar := by
  unfold instantOf at h
  unfold Timestamp.InCalendar
  split at h
  · rename_i offset hoffset
    cases h
    rw [Instant.toUtc?, Reading.ofMicros?_isSome_iff, hoffset]
    simp [Instant.micros]
  · rename_i hoffset
    obtain ⟨reading, hreading⟩ := exists_ofUtc_of_attach h
    rw [hoffset]
    exact iff_of_true (toUtc?_isSome_of_ofUtc hreading) fun _ hsome => by cases hsome

namespace Value

def spelled? : Value → Option Timestamp
  | .time stamp => some stamp
  | .date d => some (Instant.ofUtc (.midnight d)).toTimestamp
  | .text s => (timestampOfText s).toOption
  | _ => none

/-- The instant that a value names lies within the years of the calendar in UTC, if the value spells it
with an offset. -/
def InCalendar (value : Value) : Prop := ∀ stamp, value.spelled? = some stamp → stamp.InCalendar

variable {zone : Zone} {type : String} {value : Value} {t : Instant}

theorem toUtc?_isSome_iff_inCalendar (h : value.toInstant zone = .ok t) :
    t.toUtc?.isSome ↔ value.InCalendar := by
  have counted (hnone : value.spelled? = none) (hutc : ∃ reading, t = .ofUtc reading) :
      t.toUtc?.isSome ↔ value.InCalendar := by
    obtain ⟨reading, rfl⟩ := hutc
    rw [Instant.toUtc?_ofUtc]
    exact iff_of_true rfl fun stamp hstamp => by rw [hnone] at hstamp; cases hstamp
  have spelled {stamp : Timestamp} (hstamp : value.spelled? = some stamp)
      (hinstant : zone.instantOf stamp = .ok t) : t.toUtc?.isSome ↔ value.InCalendar := by
    rw [Zone.toUtc?_isSome_iff_inCalendar hinstant, InCalendar, hstamp]
    simp
  cases value with
  | time stamp => exact spelled rfl (calendarResult_eq_ok_iff.mp h)
  | date d =>
    cases h
    exact spelled rfl rfl
  | int n => exact counted rfl (Instant.eq_ofUtc_of_ofEpoch (calendarResult_eq_ok_iff.mp h))
  | real x => exact counted rfl (Instant.eq_ofUtc_of_ofMillis (calendarResult_eq_ok_iff.mp h))
  | text s =>
    obtain ⟨stamp, hstamp, hinstant⟩ := Steps.bind_eq_ok_iff.mp h
    refine spelled ?_ (calendarResult_eq_ok_iff.mp hinstant)
    rw [spelled?, hstamp]
    rfl
  | null => cases h
  | bool b => cases h
  | list items => cases h
  | object fields => cases h

theorem toInstant_of_coerce {stamp : Timestamp} (hfamily : Family.ofType type = .date)
    (h : coerce zone type value = .ok (.usable (.time stamp))) :
    ∃ t : Instant, value.toInstant zone = .ok t ∧ stamp = t.toTimestamp := by
  cases hnull : value.isNull with
  | true =>
    rw [eq_null_of_isNull hnull] at h
    cases h
  | false =>
    rw [coerce_of_date hfamily hnull, Except.ok.injEq, Coerced.ofExcept_eq_usable_iff] at h
    obtain ⟨t, ht, htime⟩ := h
    exact ⟨t, ht, Value.time.inj htime⟩

theorem toInstant_of_projection (h : (Projections.of zone type value).instant = some t) :
    value.toInstant zone = .ok t := by
  simp only [Projections.of] at h
  split at h
  · cases hinstant : value.toInstant zone with
    | error fault =>
      rw [hinstant] at h
      cases h
    | ok u =>
      rw [hinstant] at h
      cases h
      rfl
  · cases h

end Value

theorem Operator.family_of_isPeriod {operator : Operator} {family : Family}
    (hperiod : operator.isPeriod) (hknown : family ∈ operator.constrained) : family = .date := by
  cases operator with
  | today | yesterday | thisWeek | thisMonth | thisYear => exact List.mem_singleton.mp hknown
  | _ => cases hperiod

namespace Resolved
variable {setting : Setting} {schema : Schema} {criterion : Criterion} {resolved : Resolved}

/-- A store can be given the criterion: the bounds of its period, or the values that it needs, lie within
the years of the calendar in UTC. -/
def Sendable (setting : Setting) (resolved : Resolved) : Prop :=
  if resolved.operator.isPeriod then
    ∀ start stop, periodRange setting.zone resolved.operator setting.now = .ok (start, stop) →
      start.toUtc?.isSome ∧ stop.toUtc?.isSome
  else resolved.family = .date → ∀ field ∈ resolved.operator.fields,
    (field.of resolved.criterion).InCalendar

section Tests
variable {test : CellTest} {comparison : Comparison}

theorem instants_equalTest? (hfamily : resolved.family ≠ .date)
    (h : resolved.equalTest? = some test) : test.instants = [] := by
  unfold equalTest? at h
  split at h
  · split at h <;> cases h
    rfl
  · cases h
    rfl
  · cases h
    rfl
  · contradiction
  · obtain ⟨_, _, rfl⟩ := Option.map_eq_some_iff.mp h
    rfl
  · obtain ⟨_, _, rfl⟩ := Option.map_eq_some_iff.mp h
    rfl
  · cases h

theorem instants_comparisonTest? (hfamily : resolved.family ≠ .date)
    (h : resolved.comparisonTest? comparison = some test) : test.instants = [] := by
  unfold comparisonTest? at h
  split at h
  · cases h
    rfl
  · contradiction
  · cases h

theorem instants_rangeTest? (hfamily : resolved.family ≠ .date)
    (h : resolved.rangeTest? = some test) : test.instants = [] := by
  unfold rangeTest? at h
  split at h
  · cases h
    rfl
  · contradiction
  · cases h

end Tests

section Conditions
variable {condition : Condition}

theorem instants_textCondition? {test : String → Condition} (htest : ∀ s, (test s).instants = [])
    (h : resolved.textCondition? test = some condition) : condition.instants = [] := by
  unfold textCondition? at h
  split at h
  · split at h <;> cases h
    exact htest _
  · cases h

theorem instants_condition? (hfamily : resolved.family ≠ .date)
    (h : Constraints.standard.condition? setting resolved = .ok (some condition)) :
    condition.instants = [] := by
  have hknown : Constraints.standard.has resolved.operator resolved.family := by
    by_contra hunknown
    rw [Constraints.condition?, if_neg hunknown] at h
    cases h
  rw [Constraints.standard_has_iff] at hknown
  rw [Constraints.standard_condition?_eq hknown] at h
  cases hoperator : resolved.operator with
  | today | yesterday | thisWeek | thisMonth | thisYear =>
    rw [hoperator] at hknown
    exact absurd (List.mem_singleton.mp hknown) hfamily
  | equals | notEquals =>
    simp only [condition?, hoperator, Except.ok.injEq] at h
    obtain ⟨test, htest, rfl⟩ := Option.map_eq_some_iff.mp h
    exact instants_equalTest? hfamily htest
  | greaterThan | greaterThanOrEqual | lessThan | lessThanOrEqual | before | after =>
    simp only [condition?, hoperator, Except.ok.injEq] at h
    obtain ⟨test, htest, rfl⟩ := Option.map_eq_some_iff.mp h
    exact instants_comparisonTest? hfamily htest
  | between | notBetween =>
    simp only [condition?, hoperator, Except.ok.injEq] at h
    obtain ⟨test, htest, rfl⟩ := Option.map_eq_some_iff.mp h
    exact instants_rangeTest? hfamily htest
  | isEmpty | isNotEmpty =>
    simp only [condition?, hoperator, Except.ok.injEq, Option.some.injEq] at h
    rw [← h]
    rfl
  | contains | notContains | startsWith | endsWith =>
    simp only [condition?, hoperator, Except.ok.injEq] at h
    exact instants_textCondition? (fun _ => rfl) h
  | regex =>
    simp only [condition?, hoperator, Except.ok.injEq] at h
    exact instants_textCondition? (fun _ => instants_patternCondition) h

end Conditions

section Dates
variable (h : criterion.resolve setting.zone schema = .ok (.resolved resolved))
  (hfamily : resolved.family = .date)
include h hfamily

theorem coerced_eq_time (field : ValueField) (hfield : field ∈ resolved.operator.fields) :
    ∃ t : Instant, field.coerced resolved = .time t.toTimestamp ∧
      (t.toUtc?.isSome ↔ (field.of resolved.criterion).InCalendar) := by
  obtain ⟨t, ht⟩ := coerced_of_date h hfield hfamily
  obtain ⟨_, hcoerce⟩ := Criterion.coerced_of_resolve h hfield
  rw [ht] at hcoerce
  obtain ⟨u, hu, heq⟩ := Value.toInstant_of_coerce hfamily hcoerce
  obtain ⟨_, _, _, _, _, hresolved⟩ := Criterion.resolve_eq_resolved h
  have hcriterion : resolved.criterion = criterion := by rw [hresolved]
  refine ⟨u, by rw [ht, heq], ?_⟩
  rw [hcriterion]
  exact Value.toUtc?_isSome_iff_inCalendar hu

theorem sendable_of_one (comparison : Comparison)
    (hfields : resolved.operator.fields = [.value])
    (hperiod : resolved.operator.isPeriod = false) :
    ∃ t : Instant, resolved.value.instant?.map (CellTest.instant comparison) =
        some (.instant comparison t) ∧
      (resolved.Sendable setting ↔ t.toUtc?.isSome) := by
  obtain ⟨t, ht, hcalendar⟩ := coerced_eq_time h hfamily .value (by simp [hfields])
  have ht : resolved.value = .time t.toTimestamp := ht
  refine ⟨t, by rw [ht, Value.instant?_time]; rfl, ?_⟩
  simp [Sendable, hperiod, hfamily, hfields, hcalendar]

theorem sendable_of_range (hfields : resolved.operator.fields = [.value, .secondValue])
    (hperiod : resolved.operator.isPeriod = false) :
    ∃ t u : Instant, resolved.rangeTest? = some (.instantWithin t u) ∧
      (resolved.Sendable setting ↔ t.toUtc?.isSome ∧ u.toUtc?.isSome) := by
  obtain ⟨t, ht, hcalendar⟩ := coerced_eq_time h hfamily .value (by simp [hfields])
  obtain ⟨u, hu, hcalendar'⟩ := coerced_eq_time h hfamily .secondValue (by simp [hfields])
  have ht : resolved.value = .time t.toTimestamp := ht
  have hu : resolved.secondValue = .time u.toTimestamp := hu
  refine ⟨t, u, ?_, ?_⟩
  · simp only [rangeTest?, hfamily, ht, hu, Value.instant?_time]
    rfl
  · simp [Sendable, hperiod, hfamily, hfields, hcalendar, hcalendar']

end Dates

/-- A criterion can be sent to a store if and only if all instants that the store is given for it lie
within the years of the calendar. -/
theorem sendable_iff (h : criterion.resolve setting.zone schema = .ok (.resolved resolved)) :
    resolved.Sendable setting ↔ ∀ condition,
      Constraints.standard.condition? setting resolved = .ok (some condition) →
        ∀ instant ∈ condition.instants, instant.toUtc?.isSome := by
  have hoperator := Criterion.operator_mem h
  have hknown := Family.mem_constrained resolved.family resolved.operator hoperator
  by_cases hfamily : resolved.family = .date
  · rw [Constraints.standard_condition?_eq hknown]
    rw [show resolved.column.family = .date from hfamily] at hoperator
    cases hop : resolved.operator with
    | equals | notEquals =>
      obtain ⟨t, ht, hsendable⟩ := sendable_of_one h hfamily .equal
        (by rw [hop]; rfl) (by rw [hop]; rfl)
      simp [hsendable, condition?, hop, equalTest?, hfamily, ht, someCell?, noCell?,
        Condition.instants, CellTest.instants]
    | before =>
      obtain ⟨t, ht, hsendable⟩ := sendable_of_one h hfamily .less
        (by rw [hop]; rfl) (by rw [hop]; rfl)
      simp [hsendable, condition?, hop, comparisonTest?, hfamily, ht, someCell?,
        Condition.instants, CellTest.instants]
    | after =>
      obtain ⟨t, ht, hsendable⟩ := sendable_of_one h hfamily .greater
        (by rw [hop]; rfl) (by rw [hop]; rfl)
      simp [hsendable, condition?, hop, comparisonTest?, hfamily, ht, someCell?,
        Condition.instants, CellTest.instants]
    | between | notBetween =>
      obtain ⟨t, u, htest, hsendable⟩ := sendable_of_range h hfamily
        (by rw [hop]; rfl) (by rw [hop]; rfl)
      simp [hsendable, condition?, hop, htest, someCell?, noCell?, Condition.instants,
        CellTest.instants]
    | today | yesterday | thisWeek | thisMonth | thisYear =>
      simp only [Sendable, hop, Operator.isPeriod, if_true, condition?]
      cases periodRange setting.zone _ setting.now with
      | error fault => simp
      | ok range => simp [Prod.ext_iff, Condition.instants, CellTest.instants]
    | isEmpty | isNotEmpty =>
      simp [Sendable, hop, Operator.isPeriod, Operator.fields, Operator.isPresence, condition?,
        Condition.instants, CellTest.instants]
    | _ =>
      rw [hop] at hoperator
      exact absurd hoperator (by decide)
  · refine iff_of_true ?_ fun condition hcondition instant hmem => ?_
    · rw [Sendable, if_neg fun hperiod => hfamily (Operator.family_of_isPeriod hperiod hknown)]
      exact fun hdate => absurd hdate hfamily
    · rw [instants_condition? hfamily hcondition] at hmem
      cases hmem

end Resolved

namespace Store
variable {store : Store} {setting : Setting} {schema : Schema} {tableId : Int} {search : String}
  {criteria : List Criterion} {predicate : Predicate}

/-- The instants of a predicate lie within the years of the calendar if and only if each of its criteria
can be sent. -/
theorem instants_isSome_iff
    (h : Predicate.ofCriteria .standard setting schema tableId criteria search = .ok predicate) :
    (∀ instant ∈ predicate.instants, instant.toUtc?.isSome) ↔
      ∀ resolved ∈ predicate.criteria, resolved.Sendable setting := by
  obtain ⟨builds, rfl⟩ := Predicate.ofCriteria_eq_ok_iff.mp h
  rw [forall_instants_built_iff]
  constructor
  · intro hall resolved hmem
    obtain ⟨criterion, hcriterion, hresolved⟩ := List.mem_filterMap.mp hmem
    refine (Resolved.sendable_iff (Criterion.resolved?_eq_some_iff.mp hresolved)).mpr ?_
    intro condition hcondition
    refine hall criterion hcriterion condition ?_
    simp [Criterion.condition?, hresolved, Constraints.compiled?, hcondition]
  · intro hall criterion hcriterion condition hcondition
    obtain ⟨resolved, hresolved, hcompiled⟩ := Option.bind_eq_some_iff.mp hcondition
    refine (Resolved.sendable_iff (Criterion.resolved?_eq_some_iff.mp hresolved)).mp
      (hall resolved (List.mem_filterMap.mpr ⟨criterion, hcriterion, hresolved⟩)) condition ?_
    rw [Constraints.condition?_eq_ok ((builds criterion hcriterion).2 resolved hresolved), hcompiled]

theorem select_of_outside {numbers : List Int}
    (h : ¬ ∀ instant ∈ predicate.instants, instant.toUtc?.isSome) :
    store.select predicate numbers = .error .failed := by
  have hall : predicate.instants.all (·.toUtc?.isSome) = false := by
    rwa [Bool.eq_false_iff, Ne, List.all_eq_true]
  rw [select, hall]
  rfl

/-- A coerced instant can be kept if and only if the value lies within the calendar, and so can the
projection of a value.  A store that takes any number of conditions counts and fetches for a predicate if
and only if its criteria can be sent, and fails otherwise; a criterion with halves of surrogate pairs in its
JSON makes no predicate. -/
theorem answers_iff_sendable (setting : Setting) :
    (∀ type value stamp, Family.ofType type = .date →
      coerce setting.zone type value = .ok (.usable (.time stamp)) →
        ((∃ reading, stamp.stored = .ok reading) ↔ value.InCalendar)) ∧
    (∀ type value instant, (Projections.of setting.zone type value).instant = some instant →
      (instant.storedText?.isSome ↔ value.InCalendar)) ∧
    ∀ (store : Store) (schema : Schema) (tableId : Int) (search : String) (criteria : List Criterion)
      (predicate : Predicate),
      Predicate.ofCriteria .standard setting schema tableId criteria search = .ok predicate →
      store.rows.isSome → store.cells.isSome → fitsStore tableId →
        ((∀ resolved ∈ predicate.criteria, resolved.Sendable setting) →
          (∃ total, store.count predicate = .ok total) ∧
          ∀ order offset limit includeCells, (∀ n ∈ offset :: limit.toList, fitsStore n) →
            ∃ rows, store.fetch predicate order offset limit includeCells = .ok rows) ∧
        ((¬ ∀ resolved ∈ predicate.criteria, resolved.Sendable setting) →
          store.count predicate = .error .failed ∧
          ∀ order offset limit includeCells,
            store.fetch predicate order offset limit includeCells = .error .failed) := by
  refine ⟨?_, ?_, ?_⟩
  · intro type value stamp hfamily h
    obtain ⟨t, ht, rfl⟩ := Value.toInstant_of_coerce hfamily h
    rw [Instant.stored_toTimestamp_iff]
    exact Value.toUtc?_isSome_iff_inCalendar ht
  · intro type value instant h
    rw [Instant.storedText?, Option.isSome_map]
    exact Value.toUtc?_isSome_iff_inCalendar (Value.toInstant_of_projection h)
  · intro store schema tableId search criteria predicate h hrows hcells htable
    have hid : predicate.tableId = tableId := by
      rw [(Predicate.ofCriteria_eq_ok_iff.mp h).2]
      rfl
    constructor
    · intro hall
      have accepts (numbers : List Int) (hnumbers : ∀ n ∈ numbers, fitsStore n) :
          store.Accepts predicate numbers :=
        ⟨(instants_isSome_iff h).mpr hall, hrows, fun _ => hcells,
          List.forall_mem_cons.mpr ⟨hid ▸ htable, hnumbers⟩⟩
      refine ⟨⟨_, count_eq_ok_iff.mpr ⟨accepts [] (by simp), rfl⟩⟩, ?_⟩
      intro order offset limit includeCells hnumbers
      exact ⟨_, fetch_eq_ok_iff.mpr ⟨accepts _ hnumbers, fun _ _ => hcells, rfl⟩⟩
    · intro hnot
      have houtside := mt (instants_isSome_iff h).mp hnot
      refine ⟨?_, fun order offset limit includeCells => ?_⟩
      · rw [count, select_of_outside houtside]
        rfl
      · rw [fetch, select_of_outside houtside]
        rfl

def visits : Store :=
  ((empty.addTable 7).addColumn 7 ⟨1, "day", "date", 0, none⟩).insertRow .utc
    ⟨1, 7, ⟨0, Reading.zero_lt⟩⟩ [(1, .text "2024-03-10")]

def visitAt (t : Instant) : Criterion :=
  ⟨1, "equals", .time t.toTimestamp, .null, none, none, Int.zero_lt_one, by decide⟩

def visitsAt (t : Instant) : Predicate where
  tableId := 7
  conditions := [.someCell 1 (.instant .equal t)]
  criteria := [⟨visitAt t, ⟨1, "day", "date", 0, none⟩, .equals, .time t.toTimestamp, .null⟩]
  dropped := []

theorem ofCriteria_visitAt (t : Instant) :
    Predicate.ofCriteria .standard ⟨.utc, ⟨⟨0, by decide⟩, none⟩, ⟨true⟩⟩
      ⟨[⟨1, "day", "date", 0, none⟩]⟩ 7 [visitAt t] "" = .ok (visitsAt t) := by
  cbv

def firstMidnight : Instant := ⟨⟨0, Reading.zero_lt⟩, ⟨-3600000000, by decide⟩⟩

theorem answers_iff_sendable_visits :
    (∃ reading, firstMidnight.toTimestamp.stored = .ok reading) ∧
      ∃ total, visits.count (visitsAt firstMidnight) = .ok total := by
  obtain ⟨stored, _, answers⟩ :=
    answers_iff_sendable ⟨.utc, ⟨⟨0, by decide⟩, none⟩, ⟨true⟩⟩
  have hcalendar : (Value.time firstMidnight.toTimestamp).InCalendar := by
    rintro _ ⟨⟩ _ ⟨⟩
    decide
  refine ⟨(stored "date" _ _ rfl rfl).mpr hcalendar, ?_⟩
  refine ((answers visits _ 7 "" _ _ (ofCriteria_visitAt firstMidnight) rfl rfl rfl).1 ?_).1
  intro resolved hmem
  obtain rfl := List.mem_singleton.mp hmem
  rw [Resolved.Sendable, if_neg (by decide)]
  intro _ field hfield
  obtain rfl := List.mem_singleton.mp hfield
  exact hcalendar

def lostMidnight : Instant := ⟨⟨0, Reading.zero_lt⟩, ⟨3600000000, by decide⟩⟩

/-- A date that can be read on its own clock lies before the first year in UTC. -/
theorem answers_fail_visits :
    coerce .utc "date" (.text "0001-01-01T00:00:00+01:00") =
        .ok (.usable (.time lostMidnight.toTimestamp)) ∧
      lostMidnight.toTimestamp.stored = .error .outOfRange ∧
      Predicate.ofCriteria .standard ⟨.utc, ⟨⟨0, by decide⟩, none⟩, ⟨true⟩⟩
        ⟨[⟨1, "day", "date", 0, none⟩]⟩ 7 [visitAt lostMidnight] "" = .ok (visitsAt lostMidnight) ∧
      visits.count (visitsAt lostMidnight) = .error .failed := by
  have htrimmed : trimmed "0001-01-01T00:00:00+01:00" = "0001-01-01T00:00:00+01:00" := by cbv
  have hspelled : ("0001-01-01T00:00:00+01:00".toList.flatMap fun c =>
      if c = 'Z' then "+00:00".toList else [c]) = "0001-01-01T00:00:00+01:00".toList := by decide
  have hiso : Timestamp.ofIso "0001-01-01T00:00:00+01:00" = .ok lostMidnight.toTimestamp := by cbv
  have hread : timestampOfText "0001-01-01T00:00:00+01:00" = .ok lostMidnight.toTimestamp := by
    simp only [timestampOfText, htrimmed, hspelled, String.ofList_toList, hiso]
    rw [if_neg (by decide), if_neg (by decide)]
    rfl
  refine ⟨?_, rfl, ofCriteria_visitAt _, ?_⟩
  · rw [Value.coerce_of_date rfl rfl, Value.toInstant, hread]
    rfl
  · rw [count, select_of_outside]
    · rfl
    · intro hall
      have hlost := hall lostMidnight (List.mem_singleton_self _)
      cases hlost

end Store

end GridQuery
