import GridQuery.Projection
import GridQuery.Proofs.Calendar.Civil
import GridQuery.Proofs.Text.FixedWidth

/-!
# Stored texts sort as instants

The text under which a reading is kept is a record of its date and time of day, each number with the
places that it needs.  Texts therefore compare as the readings do, and stored instants by the moments
that they are.
-/

namespace GridQuery

namespace Reading

def sortableFields : List (List Char × Nat) :=
  [([], 4), (['-'], 2), (['-'], 2), ([' '], 2), ([':'], 2), ([':'], 2), (['.'], 6)]

def sortableNumbers (reading : Reading) : List Nat :=
  [reading.date.year, reading.date.month, reading.date.day] ++
    [reading.hour, reading.minute, reading.second, reading.microsecond]

section Times
variable (reading : Reading)

theorem timeOfDay_lt : reading.timeOfDay < 86400000000 := Nat.mod_lt _ (by decide)

theorem hour_lt : reading.hour < 24 := by
  have := reading.timeOfDay_lt
  unfold hour
  omega

theorem minute_lt : reading.minute < 60 := Nat.mod_lt _ (by decide)

theorem second_lt : reading.second < 60 := Nat.mod_lt _ (by decide)

theorem microsecond_lt : reading.microsecond < 1000000 := Nat.mod_lt _ (by decide)

theorem fits_sortableNumbers : Fits sortableFields reading.sortableNumbers := by
  have hyear := reading.date.year_le
  have hmonth := reading.date.month_mem.2
  have hday := Nat.le_trans reading.date.day_mem.2 (Date.daysInMonth_le _ _)
  have hhour := reading.hour_lt
  have hminute := reading.minute_lt
  have hsecond := reading.second_lt
  have hmicros := reading.microsecond_lt
  simp only [sortableFields, sortableNumbers, Fits, List.cons_append, List.nil_append, and_true]
  omega

theorem toList_sortableText :
    reading.sortableText.toList = record sortableFields reading.sortableNumbers := by
  have hfits := reading.fits_sortableNumbers
  simp only [sortableFields, sortableNumbers, Fits, List.cons_append, List.nil_append] at hfits
  obtain ⟨hyear, hmonth, hday, hhour, hminute, hsecond, hmicros, _⟩ := hfits
  simp only [sortableText, Date.text, String.toList_append, toList_padded (by decide) hyear,
    toList_padded (by decide) hmonth, toList_padded (by decide) hday,
    toList_padded (by decide) hhour, toList_padded (by decide) hminute,
    toList_padded (by decide) hsecond, toList_padded (by decide) hmicros]
  simp [record, sortableFields, sortableNumbers]

end Times

section Order
variable {a b : Reading}

theorem times_lt (h : a.timeOfDay < b.timeOfDay) :
    [a.hour, a.minute, a.second, a.microsecond] < [b.hour, b.minute, b.second, b.microsecond] := by
  simp only [List.cons_lt_cons_iff, List.not_lt_nil, or_false, and_false]
  unfold hour minute second microsecond
  omega

theorem sortableNumbers_lt (h : a.micros < b.micros) : a.sortableNumbers < b.sortableNumbers := by
  have hdays : a.date.days ≤ b.date.days := Nat.div_le_div_right (Nat.le_of_lt h)
  rcases Nat.lt_or_eq_of_le hdays with hlt | heq
  · unfold sortableNumbers
    apply append_lt_append
    · simp only [List.length_cons, List.length_nil]
    · exact Date.fields_lt hlt
  · have hdate : a.date = b.date := by
      rw [Date.mk.injEq]
      exact heq
    unfold sortableNumbers
    rw [hdate]
    apply List.append_left_lt
    apply times_lt
    have ha := Nat.div_add_mod a.micros 86400000000
    have hb := Nat.div_add_mod b.micros 86400000000
    have heq : a.micros / 86400000000 = b.micros / 86400000000 := heq
    unfold timeOfDay
    omega

theorem sortableText_lt (h : a.micros < b.micros) : a.sortableText < b.sortableText := by
  rw [String.lt_iff, toList_sortableText, toList_sortableText]
  exact record_lt a.fits_sortableNumbers b.fits_sortableNumbers (sortableNumbers_lt h)

theorem compare_sortableText :
    compare a.sortableText b.sortableText = compare a.micros b.micros := by
  have lt_of_lt {s t : String} (h : s < t) : compare s t = .lt := compareOfLessAndEq_eq_lt.mpr h
  rcases Nat.lt_trichotomy a.micros b.micros with hlt | heq | hgt
  · rw [Nat.compare_eq_lt.mpr hlt]
    exact lt_of_lt (sortableText_lt hlt)
  · rw [Nat.compare_eq_eq.mpr heq, show a = b from (Reading.mk.injEq ..).mpr heq]
    exact Std.ReflOrd.compare_self
  · rw [Nat.compare_eq_gt.mpr hgt]
    exact Std.OrientedCmp.gt_of_lt (lt_of_lt (sortableText_lt hgt))

end Order

end Reading

end GridQuery
