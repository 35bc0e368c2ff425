import GridQuery.Period
import GridQuery.Proofs.Calendar.Civil

/-!
# The days of a period

A period operator names days by what they have in common with today: the week that starts on a Sunday, the
month, or the year.  The days that it names are those from a first to a last one, which the program counts.
-/

namespace GridQuery

/-- The days that an operator names on a current day. -/
def Operator.Names (operator : Operator) (current day : Date) : Prop :=
  match operator with
  | .today => day = current
  | .yesterday => day.days + 1 = current.days
  | .thisWeek => ∃ sunday : Date, sunday.weekday = 6 ∧
      (sunday.days ≤ current.days ∧ current.days < sunday.days + 7) ∧
      sunday.days ≤ day.days ∧ day.days < sunday.days + 7
  | .thisMonth => day.year = current.year ∧ day.month = current.month
  | .thisYear => day.year = current.year
  | _ => False

/-- The days that an operator names on a current day are those from a first to a last one. -/
structure Operator.Spans (operator : Operator) (current first last : Date) : Prop where
  names_iff : ∀ day, operator.Names current day ↔ first.days ≤ day.days ∧ day.days ≤ last.days
  le : first.days ≤ last.days

namespace Date

section Months
variable {lengths : List Nat} {a k : Nat}

theorem monthAndDay_fst_eq_iff (h : a < lengths.sum) : (monthAndDay lengths a).1 = k ↔
    (lengths.take k).sum ≤ a ∧ a < (lengths.take (k + 1)).sum := by
  induction lengths generalizing a k with
  | nil => exact absurd h (Nat.not_lt_zero a)
  | cons length lengths ih =>
    rw [List.sum_cons] at h
    unfold monthAndDay
    by_cases hfirst : a < length
    · rw [if_pos hfirst]
      cases k with
      | zero => simp [hfirst]
      | succ k =>
        rw [List.take_succ_cons, List.sum_cons]
        dsimp only
        omega
    · rw [if_neg hfirst]
      cases k with
      | zero => simp [hfirst]
      | succ k =>
        have hrest := @ih (a - length) k (by omega)
        rw [List.take_succ_cons, List.take_succ_cons, List.sum_cons, List.sum_cons]
        dsimp only
        omega

end Months

variable {date other : Date}

theorem year_eq_iff : other.year = date.year ↔
    daysBeforeYear date.year ≤ other.days ∧ other.days < daysBeforeYear (date.year + 1) :=
  yearOf_eq_iff

theorem dayOfYear_add : daysBeforeYear date.year + date.dayOfYear = date.days :=
  Nat.add_sub_cancel' (daysBeforeYear_le date.days)

theorem daysBeforeMonth_add (date : Date) :
    daysBeforeMonth date.year date.month + daysInMonth date.year date.month =
      ((monthLengths date.year).take date.month).sum := by
  have hmonth := (monthAndDay_spec date.dayOfYear_lt_sum).1
  unfold month
  rw [daysInMonth, Nat.add_sub_cancel, List.getElem?_eq_getElem hmonth, List.sum_take_succ _ _ hmonth]
  rfl

theorem month_eq_iff_of_year_eq (h : other.year = date.year) : other.month = date.month ↔
    daysBeforeMonth date.year date.month ≤ other.dayOfYear ∧
      other.dayOfYear < daysBeforeMonth date.year date.month + daysInMonth date.year date.month := by
  have hinside := dayOfYear_lt_sum other
  rw [h] at hinside
  rw [daysBeforeMonth_add]
  refine Iff.trans ?_ (monthAndDay_fst_eq_iff hinside)
  unfold month
  rw [h]
  exact Nat.add_right_cancel_iff

theorem month_eq_iff : other.year = date.year ∧ other.month = date.month ↔
    date.days + 1 ≤ other.days + date.day ∧
      other.days + date.day ≤ date.days + daysInMonth date.year date.month := by
  have hcount := date.count_fields
  have hday := date.day_mem
  have hend : daysBeforeMonth date.year date.month + daysInMonth date.year date.month ≤
      (monthLengths date.year).sum := by
    have hrest := List.sum_take_add_sum_drop (monthLengths date.year) date.month
    rw [daysBeforeMonth_add]
    omega
  have hyear := daysBeforeYear_succ (show 0 < date.year from yearOf_pos date.days)
  unfold count at hcount
  constructor
  · rintro ⟨hsame, hmonth⟩
    have hother := @dayOfYear_add other
    rw [month_eq_iff_of_year_eq hsame] at hmonth
    rw [hsame] at hother
    omega
  · intro h
    have hsame : other.year = date.year := year_eq_iff.mpr (by omega)
    have hother := @dayOfYear_add other
    rw [hsame] at hother
    exact ⟨hsame, (month_eq_iff_of_year_eq hsame).mpr (by omega)⟩

theorem count_first (year : Nat) : count year 1 1 = daysBeforeYear year := rfl

theorem count_last {year : Nat} (h : 0 < year) : count year 12 31 + 1 = daysBeforeYear (year + 1) := by
  rw [daysBeforeYear_succ h, count]
  unfold daysBeforeMonth monthLengths
  cases isLeap year <;> rfl

theorem eq_iff_days : date = other ↔ date.days = other.days := by
  obtain ⟨days, hdays⟩ := date
  obtain ⟨days', hdays'⟩ := other
  exact Date.mk.injEq days hdays days' hdays' ▸ Iff.rfl

theorem sunday_unique {sunday sunday' : Date} (hsunday : sunday.weekday = 6) (hsunday' : sunday'.weekday = 6)
    (h : sunday.days ≤ date.days ∧ date.days < sunday.days + 7)
    (h' : sunday'.days ≤ date.days ∧ date.days < sunday'.days + 7) : sunday = sunday' := by
  rw [eq_iff_days]
  unfold weekday at *
  omega

end Date

namespace Operator
variable {operator : Operator} {current day other : Date}

/-- Two days on which an operator names the same day are ones on which it names the same days. -/
theorem Names.congr (hcurrent : operator.Names current day) (hother : operator.Names other day)
    (e : Date) : operator.Names current e ↔ operator.Names other e := by
  cases operator with
  | today =>
    unfold Names at *
    rw [← hcurrent, ← hother]
  | yesterday =>
    unfold Names at *
    dsimp only at *
    omega
  | thisWeek =>
    obtain ⟨sunday, hsunday, hin, hday⟩ := hcurrent
    obtain ⟨sunday', hsunday', hin', hday'⟩ := hother
    obtain rfl := Date.sunday_unique hsunday hsunday' hday hday'
    unfold Names
    constructor
    · rintro ⟨start, hstart, hcurrent, he⟩
      obtain rfl := Date.sunday_unique hstart hsunday hcurrent hin
      exact ⟨start, hstart, hin', he⟩
    · rintro ⟨start, hstart, hother, he⟩
      obtain rfl := Date.sunday_unique hstart hsunday hother hin'
      exact ⟨start, hstart, hin, he⟩
  | thisMonth =>
    obtain ⟨hyear, hmonth⟩ := hcurrent
    obtain ⟨hyear', hmonth'⟩ := hother
    unfold Names
    rw [← hyear, ← hmonth, ← hyear', ← hmonth']
  | thisYear =>
    unfold Names at *
    dsimp only at *
    rw [← hcurrent, ← hother]
  | _ => exact hcurrent.elim

theorem names_self (hperiod : operator.isPeriod) (hyesterday : operator ≠ .yesterday)
    (hdays : 6 ≤ current.days) : operator.Names current current := by
  cases operator with
  | today => rfl
  | yesterday => exact absurd rfl hyesterday
  | thisWeek =>
    obtain ⟨sunday, -, hsunday⟩ := @Date.exists_shift? current (-((current.weekday + 1) % 7 : Nat))
      (by omega) (by have := current.days_lt; omega)
    refine ⟨sunday, ?_, ?_, ?_⟩ <;> unfold Date.weekday at * <;> omega
  | thisMonth => exact ⟨rfl, rfl⟩
  | thisYear => rfl
  | _ => cases hperiod

/-- The first and the last day of a period are found, in the calendar, and it spans what the operator names. -/
def Found (operator : Operator) (current : Date) : Prop :=
  ∃ first last : Date, periodDays current operator = some (some first, some last) ∧
    operator.Spans current first last ∧ 300 ≤ first.days ∧ last.days ≤ 3652000

section Found
variable (hyear : 2 ≤ current.year ∧ current.year ≤ 9998)
include hyear

theorem found_today : Found .today current := by
  obtain ⟨hearly, hlate⟩ := Date.days_of_year hyear.1 hyear.2
  refine ⟨current, current, rfl, ⟨fun day => ?_, by omega⟩, by omega, by omega⟩
  unfold Names
  dsimp only
  rw [Date.eq_iff_days]
  omega

theorem found_yesterday : Found .yesterday current := by
  obtain ⟨hearly, hlate⟩ := Date.days_of_year hyear.1 hyear.2
  obtain ⟨previous, hprevious, hdays⟩ := @Date.exists_shift? current (-1) (by omega) (by omega)
  refine ⟨previous, previous, ?_, ⟨fun day => ?_, by omega⟩, by omega, by omega⟩
  · rw [periodDays, hprevious]
  · unfold Names
    dsimp only
    omega

theorem found_thisWeek : Found .thisWeek current := by
  obtain ⟨hearly, hlate⟩ := Date.days_of_year hyear.1 hyear.2
  obtain ⟨sunday, hsunday, hdays⟩ := @Date.exists_shift? current (-((current.weekday + 1) % 7 : Nat))
    (by omega) (by omega)
  obtain ⟨saturday, hsaturday, hdays'⟩ := @Date.exists_shift? sunday 6 (by omega) (by omega)
  have hweekday : sunday.weekday = 6 ∧ sunday.days ≤ current.days ∧ current.days < sunday.days + 7 := by
    unfold Date.weekday at *
    omega
  refine ⟨sunday, saturday, ?_, ⟨fun day => ?_, by omega⟩, by omega, by omega⟩
  · rw [periodDays, hsunday, Option.bind_some, hsaturday]
  · constructor
    · rintro ⟨other, hother, hin, hday⟩
      obtain rfl := Date.sunday_unique hother hweekday.1 hin hweekday.2
      omega
    · intro hday
      exact ⟨sunday, hweekday.1, hweekday.2, by omega⟩

theorem found_thisMonth : Found .thisMonth current := by
  obtain ⟨hearly, hlate⟩ := Date.days_of_year hyear.1 hyear.2
  have hday := current.day_mem
  have hmonth := Date.daysInMonth_le current.year current.month
  obtain ⟨first, hfirst, hdays⟩ := @Date.exists_shift? current (1 - (current.day : Int))
    (by omega) (by omega)
  obtain ⟨last, hlast, hdays'⟩ := @Date.exists_shift? current
    ((Date.daysInMonth current.year current.month : Int) - current.day) (by omega) (by omega)
  refine ⟨first, last, ?_, ⟨fun day => ?_, by omega⟩, by omega, by omega⟩
  · rw [periodDays, hfirst, hlast]
  · refine Date.month_eq_iff.trans ?_
    omega

theorem found_thisYear : Found .thisYear current := by
  have hpos : 0 < current.year := Date.yearOf_pos current.days
  have hcurrent := Date.year_eq_iff.mp (show current.year = current.year from rfl)
  have hlength := Date.daysBeforeYear_succ hpos
  have hbounds := Date.daysBeforeYear_bounds hyear.1 hyear.2
  have hdecember := Date.count_last hpos
  obtain ⟨first, hfirst, hdays⟩ := @Date.exists_ofDays? (Date.count current.year 1 1)
    (by omega) (by rw [Date.count_first]; omega)
  obtain ⟨last, hlast, hdays'⟩ := @Date.exists_ofDays? (Date.count current.year 12 31)
    (by omega) (by omega)
  rw [Date.count_first] at hdays
  refine ⟨first, last, ?_, ⟨fun day => ?_, by omega⟩, by omega, by omega⟩
  · rw [periodDays, hfirst, hlast]
  · refine Date.year_eq_iff.trans ?_
    omega

theorem found_of_isPeriod (hperiod : operator.isPeriod) : operator.Found current := by
  cases operator with
  | today => exact found_today hyear
  | yesterday => exact found_yesterday hyear
  | thisWeek => exact found_thisWeek hyear
  | thisMonth => exact found_thisMonth hyear
  | thisYear => exact found_thisYear hyear
  | _ => cases hperiod

end Found

section Spans
variable {first last first' last' : Date} (spans : operator.Spans current first last)
include spans

theorem Spans.names_first : operator.Names current first :=
  (spans.names_iff first).mpr ⟨Nat.le_refl _, spans.le⟩

theorem Spans.names_last : operator.Names current last :=
  (spans.names_iff last).mpr ⟨spans.le, Nat.le_refl _⟩

/-- Two periods of an operator are the same days, or one of them comes before the other. -/
theorem Spans.apart (spans' : operator.Spans other first' last') :
    (first' = first ∧ last' = last) ∨ last'.days < first.days ∨ last.days < first'.days := by
  rcases Nat.lt_or_ge last.days first'.days with hafter | hafter
  · exact .inr (.inr hafter)
  rcases Nat.lt_or_ge last'.days first.days with hbefore | hbefore
  · exact .inr (.inl hbefore)
  obtain ⟨day, hday, hday'⟩ : ∃ day, operator.Names current day ∧ operator.Names other day := by
    rcases Nat.le_total first.days first'.days with hfirst | hfirst
    · exact ⟨first', (spans.names_iff first').mpr ⟨hfirst, hafter⟩, spans'.names_first⟩
    · exact ⟨first, spans.names_first, (spans'.names_iff first).mpr ⟨hfirst, hbefore⟩⟩
  have same (e : Date) := (spans.names_iff e).symm.trans ((hday.congr hday' e).trans (spans'.names_iff e))
  have hfirst := (same first).mp ⟨Nat.le_refl _, spans.le⟩
  have hlast := (same last).mp ⟨spans.le, Nat.le_refl _⟩
  have hfirst' := (same first').mpr ⟨Nat.le_refl _, spans'.le⟩
  have hlast' := (same last').mpr ⟨spans'.le, Nat.le_refl _⟩
  refine .inl ⟨Date.eq_iff_days.mpr ?_, Date.eq_iff_days.mpr ?_⟩ <;> omega

theorem Spans.next (spans' : operator.Spans other first' last') {next : Date}
    (hnext : next.days = last.days + 1) (hnames : operator.Names other next) : first' = next := by
  have hle := spans.le
  rw [spans'.names_iff] at hnames
  rw [Date.eq_iff_days]
  rcases spans.apart spans' with ⟨rfl, rfl⟩ | hbefore | hafter
  · omega
  · omega
  · omega

end Spans

theorem Spans.month_length {first last : Date} (spans : Spans .thisMonth current first last)
    (hyear : 2 ≤ current.year ∧ current.year ≤ 9998) :
    last.days + 1 = first.days + Date.daysInMonth current.year current.month := by
  obtain ⟨hearly, hlate⟩ := Date.days_of_year hyear.1 hyear.2
  have hday := current.day_mem
  have hmonth := Date.daysInMonth_le current.year current.month
  obtain ⟨start, -, hstart⟩ := @Date.exists_shift? current (1 - (current.day : Int)) (by omega) (by omega)
  obtain ⟨stop, -, hstop⟩ := @Date.exists_shift? current
    ((Date.daysInMonth current.year current.month : Int) - current.day) (by omega) (by omega)
  have hfirst := Date.month_eq_iff.mp spans.names_first
  have hlast := Date.month_eq_iff.mp spans.names_last
  have hfirst' := (spans.names_iff start).mp (Date.month_eq_iff.mpr (by omega))
  have hlast' := (spans.names_iff stop).mp (Date.month_eq_iff.mpr (by omega))
  omega

end Operator

end GridQuery
