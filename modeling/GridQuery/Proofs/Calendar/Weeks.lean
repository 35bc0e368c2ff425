import GridQuery.Calendar.IsoText
import GridQuery.Proofs.Calendar.Civil

/-!
# Weeks

A week belongs to the year that its Thursday lies in, and is counted by the Thursdays of that year.  A week
counted like this and a weekday lead back to the date.
-/

namespace GridQuery

namespace Date

def thursday (date : Date) : Date where
  days := date.days - date.weekday + 3
  days_lt := by
    have := date.days_lt
    unfold weekday
    omega

def weekYear (date : Date) : Nat := date.thursday.year

def week (date : Date) : Nat := date.thursday.dayOfYear / 7 + 1

variable (date : Date)

theorem weekday_lt : date.weekday < 7 := Nat.mod_lt _ (by decide)

theorem weekday_thursday : date.thursday.weekday = 3 := by
  simp only [thursday, weekday]
  omega

theorem week_mem : 0 < date.week ∧ date.week ≤ 53 := by
  have hlt := date.thursday.dayOfYear_lt_sum
  rw [sum_monthLengths] at hlt
  unfold week
  split at hlt <;> omega

/-- A year has a 53rd Thursday only as its last or, in a leap year, its last but one day. -/
theorem hasWeek53_weekYear (h : date.week = 53) : Iso.hasWeek53 date.weekYear = true := by
  have hlt := date.thursday.dayOfYear_lt_sum
  have hbefore : daysBeforeYear date.weekYear ≤ date.thursday.days := daysBeforeYear_le _
  have hday : date.thursday.dayOfYear = date.thursday.days - daysBeforeYear date.weekYear := rfl
  have hthursday := date.weekday_thursday
  rw [sum_monthLengths, show date.thursday.year = date.weekYear from rfl] at hlt
  unfold week at h
  unfold weekday at hthursday
  unfold Iso.hasWeek53
  simp only [Bool.or_eq_true, Bool.and_eq_true, beq_iff_eq]
  split at hlt
  · rename_i hleap
    simp only [hleap, and_true]
    omega
  · omega

/-- The Monday of the first week, the weeks since then and the weekday lead to the date. -/
theorem days_of_week :
    Iso.weekOne date.weekYear + ((date.week : Int) - 1) * 7 + (((date.weekday + 1 : Nat) : Int) - 1) =
      date.days := by
  have hbefore : daysBeforeYear date.weekYear ≤ date.thursday.days := daysBeforeYear_le _
  have hday : date.thursday.dayOfYear = date.thursday.days - daysBeforeYear date.weekYear := rfl
  have hthursday := date.weekday_thursday
  have hdays : date.thursday.days = date.days - date.weekday + 3 := rfl
  have hmod : date.weekday = date.days % 7 := rfl
  unfold weekday at hthursday
  unfold week Iso.weekOne
  dsimp only
  split <;> omega

end Date

theorem Iso.ofWeek?_week (date : Date) : ofWeek? date.weekYear date.week (date.weekday + 1) =
    some ⟨date.year, date.month, date.day⟩ := by
  have hweek := date.week_mem
  have hweekday := date.weekday_lt
  have hyear : 0 < date.weekYear := Date.yearOf_pos _
  have hcounted : ¬ (date.week = 0 ∨ 53 < date.week ∨
      date.week = 53 ∧ (!hasWeek53 date.weekYear) = true) := by
    rintro (h | h | ⟨h, hnot⟩)
    · omega
    · omega
    · rw [date.hasWeek53_weekYear h] at hnot
      cases hnot
  rw [ofWeek?, if_neg hcounted, if_neg (by omega), if_neg (by omega), date.days_of_week, Date.ofDays?_days]

end GridQuery
