import GridQuery.Calendar.Timestamp
import Mathlib

/-!
# Numbers of fixed width

Numbers below `10 ^ width`, written with leading zeros up to that width, sort as texts as they do as
numbers.  So do records of such numbers with fixed separators between them: the first number that
differs decides.
-/

namespace GridQuery

def fixedDigits : Nat → Nat → List Char
  | 0, _ => []
  | width + 1, n => fixedDigits width (n / 10) ++ [(n % 10).digitChar]

theorem length_fixedDigits (width n : Nat) : (fixedDigits width n).length = width := by
  induction width generalizing n with
  | zero => rfl
  | succ width ih => rw [fixedDigits, List.length_append, ih, List.length_singleton]

theorem fixedDigits_zero (width : Nat) : fixedDigits width 0 = List.replicate width '0' := by
  induction width with
  | zero => rfl
  | succ width ih =>
    rw [fixedDigits, Nat.zero_div, ih, List.replicate_succ']
    rfl

theorem toList_padded {width n : Nat} (hwidth : 0 < width) (h : n < 10 ^ width) :
    (padded width n).toList = fixedDigits width n := by
  rw [padded, String.toList_ofList]
  induction width generalizing n with
  | zero => cases hwidth
  | succ width ih =>
    by_cases hsmall : n < 10
    · rw [Nat.toDigits_of_lt_base hsmall, fixedDigits, Nat.div_eq_of_lt hsmall, fixedDigits_zero,
        Nat.mod_eq_of_lt hsmall]
      rfl
    · have hdiv : n / 10 < 10 ^ width := by
        rw [Nat.pow_succ] at h
        omega
      have hpos : 0 < width := by
        rcases width with _ | width
        · omega
        · omega
      rw [Nat.toDigits_of_base_le (by decide) (by omega), List.length_append, List.length_singleton,
        Nat.add_sub_add_right, ← List.append_assoc, ih hpos hdiv, fixedDigits]

theorem append_lt_append {α : Type} [LT α] {l l' rest rest' : List α}
    (hlength : l.length = l'.length) (h : l < l') : l ++ rest < l' ++ rest' := by
  induction l generalizing l' with
  | nil =>
    rw [List.length_nil] at hlength
    rw [List.eq_nil_of_length_eq_zero hlength.symm] at h
    exact absurd h (List.not_lt_nil [])
  | cons a l ih =>
    cases l' with
    | nil => cases hlength
    | cons b l' =>
      rw [List.cons_append, List.cons_append, List.cons_lt_cons_iff]
      rcases List.cons_lt_cons_iff.mp h with hab | ⟨rfl, hll⟩
      · exact .inl hab
      · exact .inr ⟨rfl, ih (Nat.succ.inj hlength) hll⟩

theorem digitChar_lt {a b : Nat} (h : a < b) (hb : b < 10) : a.digitChar < b.digitChar := by
  rw [Char.lt_def, UInt32.lt_iff_toNat_lt]
  show a.digitChar.toNat < b.digitChar.toNat
  rw [Nat.toNat_digitChar_of_lt_ten (by omega), Nat.toNat_digitChar_of_lt_ten hb]
  omega

theorem fixedDigits_lt {width a b : Nat} (h : a < b) (hb : b < 10 ^ width) :
    fixedDigits width a < fixedDigits width b := by
  induction width generalizing a b with
  | zero =>
    rw [Nat.pow_zero] at hb
    omega
  | succ width ih =>
    rw [Nat.pow_succ] at hb
    rw [fixedDigits, fixedDigits]
    by_cases hdiv : a / 10 < b / 10
    · apply append_lt_append
      · rw [length_fixedDigits, length_fixedDigits]
      · exact ih hdiv (by omega)
    · have hsame : a / 10 = b / 10 := by omega
      rw [hsame]
      apply List.append_left_lt
      exact List.cons_lt_cons_iff.mpr (.inl (digitChar_lt (by omega) (by omega)))

def record : List (List Char × Nat) → List Nat → List Char
  | (separator, width) :: fields, n :: numbers =>
    separator ++ (fixedDigits width n ++ record fields numbers)
  | _, _ => []

/-- There is a number for each field, and it has at most as many digits as the field has places. -/
def Fits : List (List Char × Nat) → List Nat → Prop
  | [], [] => True
  | (_, width) :: fields, n :: numbers => n < 10 ^ width ∧ Fits fields numbers
  | _, _ => False

theorem record_lt {fields : List (List Char × Nat)} {ms ns : List Nat} (hms : Fits fields ms)
    (hns : Fits fields ns) (h : ms < ns) : record fields ms < record fields ns := by
  induction fields generalizing ms ns with
  | nil =>
    cases ms with
    | cons m ms => cases hms
    | nil =>
      cases ns with
      | cons n ns => cases hns
      | nil => exact absurd h (List.lt_irrefl [])
  | cons field fields ih =>
    obtain ⟨separator, width⟩ := field
    cases ms with
    | nil => cases hms
    | cons m ms =>
      cases ns with
      | nil => cases hns
      | cons n ns =>
        apply List.append_left_lt
        rcases List.cons_lt_cons_iff.mp h with hmn | ⟨rfl, hrest⟩
        · apply append_lt_append
          · rw [length_fixedDigits, length_fixedDigits]
          · exact fixedDigits_lt hmn hns.1
        · exact List.append_left_lt (ih hms.2 hns.2 hrest)

end GridQuery
