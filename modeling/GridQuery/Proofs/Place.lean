import GridQuery.Constraint
import GridQuery.Proofs.Calendar.SortableText
import GridQuery.Proofs.Calendar.Utc
import GridQuery.Proofs.Coercion
import GridQuery.Proofs.Number.Order

/-!
# Coerced values on a line

Numbers, booleans and instants each have a place on a line, by which two values of a kind are compared.
A test on the projections of a value says what the comparison of its coerced form with the operand
says: projections are made by the same rules as coerced values.
-/

namespace GridQuery

namespace Comparison
variable {comparison : Comparison} {a b : Int}

def Relates : Comparison → Int → Int → Prop
  | equal, a, b => a = b
  | less, a, b => a < b
  | greater, a, b => b < a
  | lessOrEqual, a, b => a ≤ b
  | greaterOrEqual, a, b => b ≤ a

theorem allows_compare_iff : comparison.allows (compare a b) = true ↔ comparison.Relates a b := by
  rcases Int.lt_trichotomy a b with h | h | h
  · rw [Int.compare_eq_lt.mpr h]
    cases comparison <;> simp [allows, Relates] <;> omega
  · rw [Int.compare_eq_eq.mpr h]
    cases comparison <;> simp [allows, Relates] <;> omega
  · rw [Int.compare_eq_gt.mpr h]
    cases comparison <;> simp [allows, Relates] <;> omega

end Comparison

def Coerced.value? : Coerced → Option Value
  | usable .null => none
  | usable value => some value
  | refused _ => none

theorem Coerced.value?_ofExcept {α : Type} {wrap : α → Value} (hwrap : ∀ a, wrap a ≠ .null)
    (answer : Except CoercionFault α) :
    (ofExcept wrap answer).value? = answer.toOption.map wrap := by
  cases answer with
  | error fault => rfl
  | ok a =>
    have ha := hwrap a
    simp only [ofExcept, Except.toOption, Option.map_some]
    cases hvalue : wrap a with
    | null => exact absurd hvalue ha
    | _ => rfl

theorem value?_coerceBoolean (value : Value) :
    (coerceBoolean value).toOption.bind Coerced.value? = value.toBoolean.toOption.map .bool := by
  unfold coerceBoolean
  cases value.toBoolean with
  | ok flag => rfl
  | error fault =>
    cases value.obstacle? false Json.maxDepth with
    | none => rfl
    | some obstacle => cases obstacle <;> rfl

namespace Value

/-- The place of a value on the line of its kind: of a number in units of the least positive size, of
an instant in microseconds. -/
def place? : Value → Option Int
  | .real x => x.units?
  | .bool b => some (if b then 1 else 0)
  | value => value.instant?.map Instant.micros

def Relates (comparison : Comparison) (u v : Value) : Prop :=
  ∃ a b, u.place? = some a ∧ v.place? = some b ∧ comparison.Relates a b

/-- A store can be given the instant that a value is, if it is one. -/
def Storable (value : Value) : Prop :=
  ∀ instant, value.instant? = some instant → instant.toUtc?.isSome

/-- The value that coercion gives for a stored one, unless that is null or is refused. -/
def coerced? (zone : Zone) (type : String) (value : Value) : Option Value :=
  (coerce zone type value).toOption.bind Coerced.value?

theorem instant?_time (t : Instant) : (Value.time t.toTimestamp).instant? = some t := rfl

theorem place?_time (t : Instant) : (Value.time t.toTimestamp).place? = some t.micros := by
  obtain ⟨reading, offset⟩ := t
  rfl

section Families
variable {zone : Zone} {type : String} {value : Value}

theorem eq_null_of_isNull (h : value.isNull = true) : value = .null := by
  cases value with
  | null => rfl
  | _ => cases h

theorem coerced?_of_coerce {α : Type} {wrap : α → Value} (hwrap : ∀ a, wrap a ≠ .null)
    {answer : Except CoercionFault α}
    (h : value.isNull = false → coerce zone type value = .ok (.ofExcept wrap answer))
    (hnull : value = .null → answer.toOption = none) :
    value.coerced? zone type = answer.toOption.map wrap := by
  cases hvalue : value.isNull with
  | false =>
    rw [coerced?, h hvalue, ← Coerced.value?_ofExcept hwrap]
    rfl
  | true =>
    have heq := eq_null_of_isNull hvalue
    rw [hnull heq, heq]
    rfl

theorem coerced?_of_numeric (h : Family.ofType type = .numeric) :
    value.coerced? zone type = (Projections.of zone type value).number.map .real := by
  have hprojection : (Projections.of zone type value).number = value.toNumber.toOption := by
    simp only [Projections.of, h]
  rw [hprojection]
  refine coerced?_of_coerce (fun _ => by simp) (coerce_of_numeric h) ?_
  rintro rfl
  rfl

theorem coerced?_of_boolean (h : Family.ofType type = .boolean) :
    value.coerced? zone type = (Projections.of zone type value).flag.map .bool := by
  have hprojection : (Projections.of zone type value).flag = value.toBoolean.toOption := by
    simp only [Projections.of, h]
  rw [hprojection]
  cases hnull : value.isNull with
  | false => rw [coerced?, coerce_of_boolean h hnull, value?_coerceBoolean]
  | true =>
    rw [eq_null_of_isNull hnull]
    rfl

theorem coerced?_of_date (h : Family.ofType type = .date) :
    value.coerced? zone type = (Projections.of zone type value).instant.map fun t =>
      .time t.toTimestamp := by
  have hprojection : (Projections.of zone type value).instant =
      (value.toInstant zone).toOption := by
    simp only [Projections.of, h]
  rw [hprojection]
  refine coerced?_of_coerce (fun _ => by simp) (coerce_of_date h) ?_
  rintro rfl
  rfl

end Families

end Value

theorem compare_natCast (a b : Nat) : compare a b = compare (a : Int) (b : Int) := by
  rcases Nat.lt_trichotomy a b with h | h | h
  · rw [Nat.compare_eq_lt.mpr h, Int.compare_eq_lt.mpr (by omega)]
  · rw [Nat.compare_eq_eq.mpr h, Int.compare_eq_eq.mpr (by omega)]
  · rw [Nat.compare_eq_gt.mpr h, Int.compare_eq_gt.mpr (by omega)]

theorem exists_map_eq_some_iff {α β : Type} {o : Option α} {f : α → β} {p : β → Prop} :
    (∃ b, o.map f = some b ∧ p b) ↔ ∃ a, o = some a ∧ p (f a) := by
  cases o <;> simp

namespace CellTest
variable {comparison : Comparison}

theorem compareNumbers_iff {x y : Double} :
    compareNumbers x y comparison = true ↔ (Value.real x).Relates comparison (.real y) := by
  unfold compareNumbers Value.Relates Value.place?
  cases hx : x.units? with
  | none =>
    have hplace := x.place?_isSome_eq
    rw [hx] at hplace
    have hnone : x.place? = none := by simpa using hplace
    simp [Double.compare?, hnone, hx]
  | some a =>
    cases hy : y.units? with
    | none =>
      have hplace := y.place?_isSome_eq
      rw [hy] at hplace
      have hnone : y.place? = none := by simpa using hplace
      simp [Double.compare?, hnone, hx, hy]
    | some b =>
      rw [Double.compare?_eq_some hx hy]
      simp [Comparison.allows_compare_iff, hx, hy]

theorem compareInstants_iff {t u : Instant} (ht : t.toUtc?.isSome) (hu : u.toUtc?.isSome) :
    compareInstants t u comparison = true ↔
      (Value.time t.toTimestamp).Relates comparison (.time u.toTimestamp) := by
  obtain ⟨r, hr⟩ := Option.isSome_iff_exists.mp ht
  obtain ⟨s, hs⟩ := Option.isSome_iff_exists.mp hu
  have hrm := Reading.micros_of_toUtc? hr
  have hsm := Reading.micros_of_toUtc? hs
  simp only [compareInstants, Instant.storedText?, hr, hs, Option.map_some,
    Reading.compare_sortableText]
  rw [compare_natCast, hrm, hsm, Comparison.allows_compare_iff]
  simp [Value.Relates, Value.place?_time]

/-- A test on the projections of values of a type says of their coerced forms, where they are, what a
property says. -/
def Reads (zone : Zone) (type : String) (test : CellTest) (p : Value → Prop) : Prop :=
  ∀ value : Value, (∀ c, value.coerced? zone type = some c → c.Storable) →
    (test.holds (.of zone type value) = true ↔ ∃ c, value.coerced? zone type = some c ∧ p c)

section Reading
variable {zone : Zone} {type : String}

theorem reads_number (h : Family.ofType type = .numeric) (operand : Double) :
    (number comparison operand).Reads zone type fun c => c.Relates comparison (.real operand) := by
  intro value _
  rw [Value.coerced?_of_numeric h, holds, Option.any_eq_true, exists_map_eq_some_iff]
  simp [compareNumbers_iff]

theorem reads_numberWithin (h : Family.ofType type = .numeric) (low high : Double) :
    (numberWithin low high).Reads zone type fun c =>
      c.Relates .greaterOrEqual (.real low) ∧ c.Relates .lessOrEqual (.real high) := by
  intro value _
  rw [Value.coerced?_of_numeric h, holds, Option.any_eq_true, exists_map_eq_some_iff]
  simp [compareNumbers_iff]

theorem reads_flagIs (h : Family.ofType type = .boolean) (flag : Bool) :
    (flagIs flag).Reads zone type fun c => c.Relates .equal (.bool flag) := by
  have hequal (b : Bool) : (Value.bool b).Relates .equal (.bool flag) ↔ b = flag := by
    cases b <;> cases flag <;> simp [Value.Relates, Value.place?, Comparison.Relates]
  intro value _
  rw [Value.coerced?_of_boolean h, holds, beq_iff_eq, exists_map_eq_some_iff]
  simp only [hequal, exists_eq_right]

theorem reads_instant (h : Family.ofType type = .date) {operand : Instant}
    (hoperand : operand.toUtc?.isSome) :
    (instant comparison operand).Reads zone type fun c =>
      c.Relates comparison (.time operand.toTimestamp) := by
  intro value hstorable
  rw [Value.coerced?_of_date h] at hstorable ⊢
  rw [holds]
  cases hinstant : (Projections.of zone type value).instant with
  | none => simp
  | some t =>
    have ht := hstorable (.time t.toTimestamp) (by rw [hinstant]; rfl) t (Value.instant?_time t)
    simp [compareInstants_iff ht hoperand]

theorem reads_instantWithin (h : Family.ofType type = .date) {low high : Instant}
    (hlow : low.toUtc?.isSome) (hhigh : high.toUtc?.isSome) :
    (instantWithin low high).Reads zone type fun c =>
      c.Relates .greaterOrEqual (.time low.toTimestamp) ∧
        c.Relates .lessOrEqual (.time high.toTimestamp) := by
  intro value hstorable
  rw [Value.coerced?_of_date h] at hstorable ⊢
  rw [holds]
  cases hinstant : (Projections.of zone type value).instant with
  | none => simp
  | some t =>
    have ht := hstorable (.time t.toTimestamp) (by rw [hinstant]; rfl) t (Value.instant?_time t)
    simp [compareInstants_iff ht hlow, compareInstants_iff ht hhigh]

end Reading

end CellTest

end GridQuery
