import GridQuery.Calendar.Date
import Mathlib

/-!
# Years, months and days

A day lies in its year: the whole cycles that `yearOf` takes off are the days before that year.  Its
month and day are ones of that year, and counting up to them leads back to the day.  Later days have later
dates, by year, then month, then day of the month.
-/

namespace GridQuery.Date

/-- Days as whole cycles of 400, 100, 4 years and 1 year with a rest.  The rest is a leap day only at
the end of a cycle of 4 years that is not cut short. -/
theorem yearOf_eq (days : Nat) : ∃ q a b c e, days = 146097 * q + 36524 * a + 1461 * b + 365 * c + e ∧
    yearOf days = 400 * q + 100 * a + 4 * b + c + 1 ∧ a ≤ 3 ∧ b ≤ 24 ∧ c ≤ 3 ∧ e ≤ 365 ∧
    (e = 365 → c = 3 ∧ (b < 24 ∨ a = 3)) := by
  have h400 := Nat.div_add_mod days 146097
  have hin400 := Nat.mod_lt days (show 0 < 146097 by decide)
  unfold yearOf
  generalize days / 146097 = q at *
  generalize days % 146097 = in400 at *
  have hhundreds : min (in400 / 36524) 3 ≤ 3 ∧ min (in400 / 36524) 3 * 36524 ≤ in400 ∧
      (min (in400 / 36524) 3 < 3 → in400 < min (in400 / 36524) 3 * 36524 + 36524) := by omega
  generalize min (in400 / 36524) 3 = a at *
  obtain ⟨in100, hin100⟩ : ∃ in100, in100 = in400 - a * 36524 := ⟨_, rfl⟩
  have h4 := Nat.div_add_mod in100 1461
  have hin4 := Nat.mod_lt in100 (show 0 < 1461 by decide)
  simp only
  generalize in100 / 1461 = b at *
  generalize in100 % 1461 = in4 at *
  have hyears : min (in4 / 365) 3 ≤ 3 ∧ min (in4 / 365) 3 * 365 ≤ in4 ∧
      (min (in4 / 365) 3 < 3 → in4 < min (in4 / 365) 3 * 365 + 365) := by omega
  generalize min (in4 / 365) 3 = c at *
  refine ⟨q, a, b, c, in4 - c * 365, ?_, ?_, ?_, ?_, ?_, ?_, ?_⟩ <;> omega

theorem daysBeforeYear_cycles (q : Nat) {a b c : Nat} (ha : a ≤ 3) (hb : b ≤ 24) (hc : c ≤ 3) :
    daysBeforeYear (400 * q + 100 * a + 4 * b + c + 1) =
      146097 * q + 36524 * a + 1461 * b + 365 * c := by
  unfold daysBeforeYear
  have h4 : (400 * q + 100 * a + 4 * b + c) / 4 = 100 * q + 25 * a + b := by omega
  have h100 : (400 * q + 100 * a + 4 * b + c) / 100 = 4 * q + a := by omega
  have h400 : (400 * q + 100 * a + 4 * b + c) / 400 = q := by omega
  simp only [Nat.add_sub_cancel, h4, h100, h400]
  omega

theorem daysBeforeYear_le (days : Nat) : daysBeforeYear (yearOf days) ≤ days := by
  obtain ⟨q, a, b, c, e, hdays, hyear, ha, hb, hc, _⟩ := yearOf_eq days
  rw [hyear, daysBeforeYear_cycles q ha hb hc]
  omega

theorem lt_daysBeforeYear (days : Nat) : days < daysBeforeYear (yearOf days + 1) := by
  obtain ⟨q, a, b, c, e, hdays, hyear, ha, hb, hc, he, hleap⟩ := yearOf_eq days
  rw [hyear]
  by_cases hc3 : c < 3
  · have hnext := daysBeforeYear_cycles q ha hb (show c + 1 ≤ 3 by omega)
    rw [show 400 * q + 100 * a + 4 * b + c + 1 + 1 = 400 * q + 100 * a + 4 * b + (c + 1) + 1 by omega,
      hnext]
    omega
  by_cases hb24 : b < 24
  · have hnext := daysBeforeYear_cycles q ha (show b + 1 ≤ 24 by omega) (Nat.zero_le 3)
    rw [show 400 * q + 100 * a + 4 * b + c + 1 + 1 = 400 * q + 100 * a + 4 * (b + 1) + 0 + 1 by omega,
      hnext]
    omega
  by_cases ha3 : a < 3
  · have hnext := daysBeforeYear_cycles q (show a + 1 ≤ 3 by omega) (Nat.zero_le 24) (Nat.zero_le 3)
    rw [show 400 * q + 100 * a + 4 * b + c + 1 + 1 = 400 * q + 100 * (a + 1) + 4 * 0 + 0 + 1 by omega,
      hnext]
    omega
  · have hnext := daysBeforeYear_cycles (q + 1) (Nat.zero_le 3) (Nat.zero_le 24) (Nat.zero_le 3)
    rw [show 400 * q + 100 * a + 4 * b + c + 1 + 1 = 400 * (q + 1) + 100 * 0 + 4 * 0 + 0 + 1 by omega,
      hnext]
    omega

theorem daysBeforeYear_le_succ (year : Nat) :
    daysBeforeYear year ≤ daysBeforeYear (year + 1) := by
  simp only [daysBeforeYear]
  omega

theorem daysBeforeYear_mono {a b : Nat} (h : a ≤ b) : daysBeforeYear a ≤ daysBeforeYear b := by
  induction h with
  | refl => exact Nat.le_refl _
  | step _ ih => exact Nat.le_trans ih (daysBeforeYear_le_succ _)

theorem yearOf_mono {a b : Nat} (h : a ≤ b) : yearOf a ≤ yearOf b := by
  have ha := daysBeforeYear_le a
  have hb := lt_daysBeforeYear b
  rcases Nat.lt_or_ge (yearOf b) (yearOf a) with hlt | hge
  · have := daysBeforeYear_mono (show yearOf b + 1 ≤ yearOf a from hlt)
    omega
  · exact hge

theorem yearOf_eq_iff {days year : Nat} : yearOf days = year ↔
    daysBeforeYear year ≤ days ∧ days < daysBeforeYear (year + 1) := by
  constructor
  · rintro rfl
    exact ⟨daysBeforeYear_le days, lt_daysBeforeYear days⟩
  · rintro ⟨hle, hlt⟩
    have hlow := daysBeforeYear_le days
    have hhigh := lt_daysBeforeYear days
    rcases Nat.lt_trichotomy (yearOf days) year with h | h | h
    · have := daysBeforeYear_mono (show yearOf days + 1 ≤ year from h)
      omega
    · exact h
    · have := daysBeforeYear_mono (show year + 1 ≤ yearOf days from h)
      omega

theorem yearOf_add_cycle (days : Nat) : yearOf (days + 146097) = yearOf days + 400 := by
  have hcycles : (days + 146097) / 146097 = days / 146097 + 1 := by omega
  unfold yearOf
  simp only [Nat.add_mod_right, hcycles]
  omega

theorem yearOf_le {days : Nat} (h : days < 3652059) : yearOf days ≤ 9999 :=
  Nat.le_trans (yearOf_mono (Nat.le_of_lt_succ h)) (by decide)

theorem sum_monthLengths (year : Nat) :
    (monthLengths year).sum = 365 + if isLeap year then 1 else 0 := by
  unfold monthLengths
  cases isLeap year <;> rfl

theorem isLeap_iff {year : Nat} :
    isLeap year ↔ year % 4 = 0 ∧ (year % 100 ≠ 0 ∨ year % 400 = 0) := by
  simp only [isLeap, Bool.and_eq_true, Bool.or_eq_true, beq_iff_eq, bne_iff_ne]

theorem daysBeforeYear_succ {year : Nat} (h : 0 < year) :
    daysBeforeYear (year + 1) = daysBeforeYear year + (monthLengths year).sum := by
  obtain ⟨past, rfl⟩ := Nat.exists_eq_add_one_of_ne_zero (Nat.ne_of_gt h)
  have hmore : past / 100 ≤ past / 4 := by omega
  have h4 : (past + 1) / 4 = past / 4 + if (past + 1) % 4 = 0 then 1 else 0 := by
    split <;> omega
  have h100 : (past + 1) / 100 = past / 100 + if (past + 1) % 100 = 0 then 1 else 0 := by
    split <;> omega
  have h400 : (past + 1) / 400 = past / 400 + if (past + 1) % 400 = 0 then 1 else 0 := by
    split <;> omega
  have hfourth : (past + 1) % 100 = 0 → (past + 1) % 4 = 0 := by omega
  have hhundredth : (past + 1) % 400 = 0 → (past + 1) % 100 = 0 := by omega
  rw [sum_monthLengths]
  simp only [isLeap_iff, daysBeforeYear, Nat.add_sub_cancel, h4, h100, h400]
  generalize past / 4 = fourths at *
  generalize past / 100 = hundredths at *
  split <;> split <;> split <;> split <;> omega

theorem yearOf_pos (days : Nat) : 0 < yearOf days := Nat.succ_pos _

section Months
variable {lengths : List Nat} {a b : Nat}

theorem monthAndDay_lt (h : a < b) : (monthAndDay lengths a).1 < (monthAndDay lengths b).1 ∨
    (monthAndDay lengths a).1 = (monthAndDay lengths b).1 ∧
      (monthAndDay lengths a).2 < (monthAndDay lengths b).2 := by
  induction lengths generalizing a b with
  | nil => exact .inr ⟨rfl, h⟩
  | cons length lengths ih =>
    unfold monthAndDay
    by_cases ha : a < length
    · rw [if_pos ha]
      by_cases hb : b < length
      · rw [if_pos hb]
        exact .inr ⟨rfl, h⟩
      · rw [if_neg hb]
        exact .inl (Nat.succ_pos _)
    · rw [if_neg ha, if_neg (by omega)]
      rcases ih (show a - length < b - length by omega) with hlt | ⟨heq, hlt⟩
      · exact .inl (Nat.succ_lt_succ hlt)
      · exact .inr ⟨congrArg Nat.succ heq, hlt⟩

/-- A day of the year is as many days into its month as there are beyond the months before. -/
theorem monthAndDay_spec (h : a < lengths.sum) :
    (monthAndDay lengths a).1 < lengths.length ∧
      (monthAndDay lengths a).2 < lengths[(monthAndDay lengths a).1]?.getD 0 ∧
      (lengths.take (monthAndDay lengths a).1).sum + (monthAndDay lengths a).2 = a := by
  induction lengths generalizing a with
  | nil => exact absurd h (Nat.not_lt_zero a)
  | cons length lengths ih =>
    unfold monthAndDay
    by_cases hfirst : a < length
    · rw [if_pos hfirst]
      exact ⟨Nat.succ_pos _, hfirst, Nat.zero_add a⟩
    · rw [List.sum_cons] at h
      obtain ⟨hmonth, hday, hsum⟩ := ih (show a - length < lengths.sum by omega)
      rw [if_neg hfirst]
      refine ⟨Nat.succ_lt_succ hmonth, hday, ?_⟩
      dsimp only
      rw [List.take_succ_cons, List.sum_cons]
      omega

end Months

theorem monthLengths_le (year : Nat) : ∀ length ∈ monthLengths year, length ≤ 31 := by
  unfold monthLengths
  cases isLeap year <;> decide

theorem daysInMonth_le (year month : Nat) : daysInMonth year month ≤ 31 := by
  unfold daysInMonth
  cases hlength : (monthLengths year)[month - 1]? with
  | none => exact Nat.zero_le 31
  | some length => exact monthLengths_le year length (List.mem_of_getElem? hlength)

section Fields
variable (date : Date)

theorem year_le : date.year ≤ 9999 := yearOf_le date.days_lt

theorem dayOfYear_lt_sum : date.dayOfYear < (monthLengths date.year).sum := by
  have hlt : date.days < daysBeforeYear date.year + (monthLengths date.year).sum := by
    rw [← daysBeforeYear_succ (show 0 < date.year from yearOf_pos date.days)]
    exact lt_daysBeforeYear date.days
  have hle : daysBeforeYear date.year ≤ date.days := daysBeforeYear_le date.days
  unfold dayOfYear
  omega

theorem month_mem : 0 < date.month ∧ date.month ≤ 12 :=
  ⟨Nat.succ_pos _, (monthAndDay_spec date.dayOfYear_lt_sum).1⟩

theorem day_mem : 0 < date.day ∧ date.day ≤ daysInMonth date.year date.month :=
  ⟨Nat.succ_pos _, (monthAndDay_spec date.dayOfYear_lt_sum).2.1⟩

theorem le_daysInMonth : 28 ≤ daysInMonth date.year date.month := by
  have hlengths : ∀ length ∈ monthLengths date.year, 28 ≤ length := by
    unfold monthLengths
    cases isLeap date.year <;> decide
  have hmonth := (monthAndDay_spec date.dayOfYear_lt_sum).1
  unfold month
  rw [daysInMonth, Nat.add_sub_cancel, List.getElem?_eq_getElem hmonth]
  exact hlengths _ (List.getElem_mem hmonth)

theorem count_fields : count date.year date.month date.day = date.days := by
  have hyear : daysBeforeYear date.year ≤ date.days := daysBeforeYear_le date.days
  have hday : daysBeforeMonth date.year date.month + (date.day - 1) = date.dayOfYear :=
    (monthAndDay_spec date.dayOfYear_lt_sum).2.2
  rw [count, Nat.add_assoc, hday]
  exact Nat.add_sub_cancel' hyear

theorem ofDays?_days : ofDays? date.days = some date := by
  have := date.days_lt
  unfold ofDays?
  rw [dif_pos (by omega)]
  rfl

end Fields

theorem exists_ofDays? {days : Int} (hlow : 0 ≤ days) (hhigh : days < 3652059) :
    ∃ date, ofDays? days = some date ∧ (date.days : Int) = days := by
  unfold ofDays?
  rw [dif_pos ⟨hlow, hhigh⟩]
  exact ⟨_, rfl, Int.toNat_of_nonneg hlow⟩

theorem exists_shift? (date : Date) {days : Int} (hlow : 0 ≤ date.days + days)
    (hhigh : date.days + days < 3652059) :
    ∃ other, date.shift? days = some other ∧ (other.days : Int) = date.days + days :=
  exists_ofDays? hlow hhigh

theorem daysBeforeYear_bounds {year : Nat} (hlow : 2 ≤ year) (hhigh : year ≤ 9998) :
    365 ≤ daysBeforeYear year ∧ daysBeforeYear (year + 1) ≤ 3651694 :=
  ⟨daysBeforeYear_mono hlow, daysBeforeYear_mono (Nat.succ_le_succ hhigh)⟩

theorem days_of_year {date : Date} (hlow : 2 ≤ date.year) (hhigh : date.year ≤ 9998) :
    365 ≤ date.days ∧ date.days < 3651694 := by
  have hbounds := daysBeforeYear_bounds hlow hhigh
  have hyear := yearOf_eq_iff.mp (show yearOf date.days = date.year from rfl)
  omega

section Later
variable {a b : Date}

theorem dayOfYear_lt_of_year_eq (h : a.days < b.days) (hyear : a.year = b.year) :
    a.dayOfYear < b.dayOfYear := by
  have hbefore := daysBeforeYear_le a.days
  unfold dayOfYear
  rw [← hyear]
  unfold year
  omega

theorem fields_lt (h : a.days < b.days) :
    [a.year, a.month, a.day] < [b.year, b.month, b.day] := by
  simp only [List.cons_lt_cons_iff, List.not_lt_nil, or_false, and_false]
  rcases Nat.lt_or_eq_of_le (yearOf_mono (Nat.le_of_lt h)) with hyear | hyear
  · exact .inl hyear
  · have hyear : a.year = b.year := hyear
    have hday := dayOfYear_lt_of_year_eq h hyear
    unfold month day
    rw [← hyear]
    rcases @monthAndDay_lt (monthLengths a.year) _ _ hday with hmonth | ⟨hmonth, hday⟩
    · exact .inr ⟨rfl, .inl (by omega)⟩
    · exact .inr ⟨rfl, .inr ⟨by omega, by omega⟩⟩

end Later

end GridQuery.Date
