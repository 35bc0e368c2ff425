import GridQuery.Proofs.Period.Days
import GridQuery.Proofs.Period.LocalDay

/-!
# Periods side by side

On a clock with a constant offset the periods of an operator cover the calendar without overlap: each ends a
millisecond before the next one starts, and two readings are in the same period or in ones apart.
-/

namespace GridQuery

/-- A clock that is ahead of UTC by a constant offset.  Its readings come with that offset or with none, and
where they are taken for local ones, the zone has it at all times. -/
structure Zone.Steady (zone : Zone) (offset : Offset) (now : Timestamp) : Prop where
  given : ∀ other, now.offset = some other → other = offset
  offsetAt_eq : inLocalZone zone now = .ok true → ∀ moment, zone.offsetAt moment = offset

def Offset.range (offset : Offset) (first last : Date) : Instant × Instant :=
  (⟨.midnight first, offset⟩, ⟨.ofDate last lastMilli, offset⟩)

def Within (inner outer : Instant × Instant) : Prop :=
  outer.1.micros ≤ inner.1.micros ∧ inner.2.micros ≤ outer.2.micros

def Precedes (earlier later : Instant × Instant) : Prop := earlier.2.micros < later.1.micros

namespace Zone
variable {zone : Zone} {offset : Offset} {now : Timestamp}

theorem attach_of_const (h : ∀ moment, zone.offsetAt moment = offset) {reading : Reading}
    (hlow : 3 * 86400000000 ≤ reading.micros)
    (hhigh : reading.micros + 2 * 86400000000 ≤ 3652059 * 86400000000) :
    zone.attach reading = .ok ⟨reading, offset⟩ := by
  obtain ⟨t, ht, hoffset, hmicros⟩ := @ChangesOnce.attach_eq zone
    ((reading.micros : Int) - 2 * 86400000000) ((reading.micros : Int) + 86400000000) 0 offset offset reading
    (changesOnce_of_const h _ _ _) (by omega) (by omega) (by omega) (by omega)
  obtain ⟨seen, other⟩ := t
  obtain rfl : other = offset := hoffset.trans (h _)
  rw [ite_self] at hmicros
  rw [ht]
  obtain rfl : seen = reading := by
    have hseen : (Instant.mk seen other).micros = seen.micros - other.micros := rfl
    rw [Reading.eq_iff_micros]
    omega
  rfl

theorem exists_inLocalZone (hlow : 2 * 86400000000 ≤ now.reading.micros)
    (hhigh : now.reading.micros + 2 * 86400000000 ≤ 3652059 * 86400000000) :
    ∃ answer, inLocalZone zone now = .ok answer := by
  unfold inLocalZone
  split
  · exact ⟨true, rfl⟩
  · rename_i offset hoffset
    have hbounded := offset.bounded
    have hmicros : (Instant.mk now.reading offset).micros = now.reading.micros - offset.micros := rfl
    obtain ⟨seen, hseen, -⟩ := @onClock_eq zone ⟨now.reading, offset⟩ (by omega) (by omega)
    rw [hseen]
    exact ⟨_, rfl⟩

theorem Steady.attachTo_eq (steady : zone.Steady offset now)
    (hlow : 2 * 86400000000 ≤ now.reading.micros)
    (hhigh : now.reading.micros + 2 * 86400000000 ≤ 3652059 * 86400000000) {reading : Reading}
    (hlow' : 3 * 86400000000 ≤ reading.micros)
    (hhigh' : reading.micros + 2 * 86400000000 ≤ 3652059 * 86400000000) :
    attachTo zone now reading = .ok ⟨reading, offset⟩ := by
  obtain ⟨answer, hanswer⟩ := @exists_inLocalZone zone now hlow hhigh
  unfold attachTo
  rw [hanswer]
  cases answer with
  | true => exact attach_of_const (steady.offsetAt_eq hanswer) hlow' hhigh'
  | false =>
    cases hoffset : now.offset with
    | none =>
      rw [inLocalZone, hoffset] at hanswer
      cases hanswer
    | some other =>
      rw [steady.given other hoffset]
      rfl

end Zone

namespace Offset
variable {offset : Offset} {first last : Date}

theorem range_start (offset : Offset) (first last : Date) :
    (offset.range first last).1.micros = first.opening - offset.micros := rfl

theorem range_stop (offset : Offset) (first last : Date) :
    (offset.range first last).2.micros = last.closing - offset.micros := rfl

end Offset

section Periods
variable {zone : Zone} {offset : Offset} {operator : Operator} {now other earlier : Timestamp}

theorem Zone.Steady.periodRange_eq_range (steady : zone.Steady offset now)
    (hnow : 300 ≤ now.reading.date.days ∧ now.reading.date.days ≤ 3652000) {first last : Date}
    (hdays : periodDays now.reading.date operator = some (some first, some last))
    (hfirst : 300 ≤ first.days ∧ first.days ≤ 3652000) (hlast : 300 ≤ last.days ∧ last.days ≤ 3652000) :
    periodRange zone operator now = .ok (offset.range first last) := by
  have hdate := now.reading.date_spec
  have hstart : ((Reading.midnight first).micros : Int) = first.opening := rfl
  have hstop : ((Reading.ofDate last lastMilli).micros : Int) = last.closing := rfl
  unfold Date.closing at hstop
  unfold Date.opening at *
  exact periodRange_eq hdays (steady.attachTo_eq (by omega) (by omega) (by omega) (by omega))
    (steady.attachTo_eq (by omega) (by omega) (by omega) (by omega))

theorem Zone.Steady.exists_periodRange (steady : zone.Steady offset now)
    (hyear : 2 ≤ now.reading.date.year ∧ now.reading.date.year ≤ 9998) (hperiod : operator.isPeriod) :
    ∃ first last : Date, periodRange zone operator now = .ok (offset.range first last) ∧
      operator.Spans now.reading.date first last := by
  obtain ⟨first, last, hdays, spans, hlow, hhigh⟩ := Operator.found_of_isPeriod hyear hperiod
  obtain ⟨hearly, hlate⟩ := Date.days_of_year hyear.1 hyear.2
  have hle := spans.le
  exact ⟨first, last,
    steady.periodRange_eq_range (by omega) hdays (by omega) (by omega), spans⟩

theorem Zone.Steady.periodRange_yesterday (steady : zone.Steady offset now)
    (hyear : 2 ≤ now.reading.date.year ∧ now.reading.date.year ≤ 9998)
    (steady' : zone.Steady offset earlier)
    (hday : earlier.reading.micros + 86400000000 = now.reading.micros) :
    periodRange zone .yesterday now = periodRange zone .today earlier := by
  obtain ⟨hearly, hlate⟩ := Date.days_of_year hyear.1 hyear.2
  have hdays : earlier.reading.date.days + 1 = now.reading.date.days := by
    change earlier.reading.micros / 86400000000 + 1 = now.reading.micros / 86400000000
    omega
  obtain ⟨first, last, hrange, spans⟩ :=
    @Zone.Steady.exists_periodRange _ _ .yesterday _ steady hyear rfl
  have hfirst : first.days + 1 = now.reading.date.days := spans.names_first
  have hlast : last.days + 1 = now.reading.date.days := spans.names_last
  obtain rfl : first = earlier.reading.date := Date.eq_iff_days.mpr (by omega)
  obtain rfl : last = earlier.reading.date := Date.eq_iff_days.mpr (by omega)
  rw [hrange, steady'.periodRange_eq_range (by omega) rfl (by omega) (by omega)]

theorem Operator.Spans.within {inner outer : Operator} {current first last first' last' : Date}
    (spans : inner.Spans current first last) (spans' : outer.Spans current first' last')
    (h : ∀ day, inner.Names current day → outer.Names current day) (offset : Offset) :
    Within (offset.range first last) (offset.range first' last') := by
  have hfirst := (spans'.names_iff first).mp (h first spans.names_first)
  have hlast := (spans'.names_iff last).mp (h last spans.names_last)
  unfold Within
  rw [Offset.range_start, Offset.range_start, Offset.range_stop, Offset.range_stop]
  unfold Date.closing Date.opening
  omega

/-- On a clock with a constant offset a period operator names the days from a first to a last one, and its
range goes from midnight of the first to the last millisecond of the last; a month has all its days.  The
current reading lies in the range, unless it comes in the last millisecond.  Another reading gives the same
range or one apart, and the next one starts a millisecond behind it. -/
theorem periodRange_tiles (steady : zone.Steady offset now)
    (hyear : 2 ≤ now.reading.date.year ∧ now.reading.date.year ≤ 9998)
    (steady' : zone.Steady offset other)
    (hyear' : 2 ≤ other.reading.date.year ∧ other.reading.date.year ≤ 9998) :
    (∀ operator : Operator, operator.isPeriod → ∃ first last : Date,
      periodRange zone operator now = .ok (offset.range first last) ∧
      operator.Spans now.reading.date first last ∧
      (operator = .thisMonth →
        last.days + 1 = first.days + Date.daysInMonth now.reading.date.year now.reading.date.month ∧
        28 ≤ Date.daysInMonth now.reading.date.year now.reading.date.month ∧
        Date.daysInMonth now.reading.date.year now.reading.date.month ≤ 31) ∧
      (operator ≠ .yesterday → (offset.range first last).1.micros ≤ (Instant.mk now.reading offset).micros ∧
        ((Instant.mk now.reading offset).micros ≤ (offset.range first last).2.micros ∨
          now.reading.date = last ∧ lastMilli < now.reading.timeOfDay)) ∧
      ∃ range, periodRange zone operator other = .ok range ∧
        (range = offset.range first last ∨ Precedes range (offset.range first last) ∨
          Precedes (offset.range first last) range) ∧
        ∀ next, next.days = last.days + 1 → operator.Names other.reading.date next →
          range.1.micros = (offset.range first last).2.micros + 1000) ∧
    (∀ earlier, zone.Steady offset earlier →
      earlier.reading.micros + 86400000000 = now.reading.micros →
        periodRange zone .yesterday now = periodRange zone .today earlier) ∧
    ∃ day week month year, periodRange zone .today now = .ok day ∧
      periodRange zone .thisWeek now = .ok week ∧ periodRange zone .thisMonth now = .ok month ∧
      periodRange zone .thisYear now = .ok year ∧
      Within day week ∧ Within day month ∧ Within month year := by
  obtain ⟨hearly, hlate⟩ := Date.days_of_year hyear.1 hyear.2
  refine ⟨fun operator hperiod => ?_, fun earlier => steady.periodRange_yesterday hyear, ?_⟩
  · obtain ⟨first, last, hrange, spans⟩ := steady.exists_periodRange hyear hperiod
    obtain ⟨first', last', hrange', spans'⟩ := steady'.exists_periodRange hyear' hperiod
    refine ⟨first, last, hrange, spans, ?_, fun hyesterday => ?_, _, hrange', ?_, ?_⟩
    · rintro rfl
      exact ⟨spans.month_length hyear, now.reading.date.le_daysInMonth, Date.daysInMonth_le _ _⟩
    · have hcurrent := (spans.names_iff _).mp (Operator.names_self hperiod hyesterday (by omega))
      have hdate := now.reading.date_spec
      have hnow : (Instant.mk now.reading offset).micros = now.reading.micros - offset.micros := rfl
      rw [Offset.range_start, Offset.range_stop, hnow]
      unfold Date.closing
      unfold Date.opening at *
      refine ⟨by omega, ?_⟩
      by_cases hlast : now.reading.date = last
      · by_cases htime : now.reading.timeOfDay ≤ lastMilli
        · have hclose := (Reading.timeOfDay_le_lastMilli_iff hlast).mp htime
          unfold Date.closing Date.opening at hclose
          exact .inl (by omega)
        · exact .inr ⟨hlast, Nat.lt_of_not_le htime⟩
      · rw [Date.eq_iff_days] at hlast
        exact .inl (by omega)
    · unfold Precedes
      rw [Offset.range_start, Offset.range_start, Offset.range_stop, Offset.range_stop]
      unfold Date.closing Date.opening
      rcases spans.apart spans' with ⟨rfl, rfl⟩ | hbefore | hafter
      · exact .inl rfl
      · exact .inr (.inl (by omega))
      · exact .inr (.inr (by omega))
    · intro next hnext hnames
      obtain rfl := spans.next spans' hnext hnames
      rw [Offset.range_start, Offset.range_stop]
      unfold Date.closing Date.opening
      omega
  · obtain ⟨_, _, hday, day⟩ := @Zone.Steady.exists_periodRange _ _ .today _ steady hyear rfl
    obtain ⟨_, _, hweek, week⟩ := @Zone.Steady.exists_periodRange _ _ .thisWeek _ steady hyear rfl
    obtain ⟨_, _, hmonth, month⟩ := @Zone.Steady.exists_periodRange _ _ .thisMonth _ steady hyear rfl
    obtain ⟨_, _, hannual, annual⟩ := @Zone.Steady.exists_periodRange _ _ .thisYear _ steady hyear rfl
    refine ⟨_, _, _, _, hday, hweek, hmonth, hannual, ?_, ?_, ?_⟩
    · refine day.within week (fun e he => ?_) offset
      obtain rfl : e = now.reading.date := he
      exact Operator.names_self rfl (by decide) (by omega)
    · refine day.within month (fun e he => ?_) offset
      obtain rfl : e = now.reading.date := he
      exact ⟨rfl, rfl⟩
    · exact month.within annual (fun e he => he.1) offset

end Periods

def ahead : Zone := ⟨⟨19800000000, by decide⟩, none⟩

/-- Noon of a leap day on the clock of that zone, and of the day after. -/
def leapNoon : Timestamp := ⟨.ofDate ⟨738944, by decide⟩ noon, some ahead.standard⟩

def marchFirst : Timestamp := ⟨.ofDate ⟨738945, by decide⟩ noon, none⟩

theorem ahead_steady {now : Timestamp} (h : ∀ other, now.offset = some other → other = ahead.standard) :
    ahead.Steady ahead.standard now where
  given := h
  offsetAt_eq _ _ := rfl

theorem periodRange_tiles_leapNoon :
    ∃ february march, periodRange ahead .thisMonth leapNoon = .ok february ∧
      periodRange ahead .thisMonth marchFirst = .ok march ∧ march.1.micros = february.2.micros + 1000 := by
  have steady : ahead.Steady ahead.standard leapNoon := by
    refine ahead_steady fun other hother => ?_
    cases hother
    rfl
  have steady' : ahead.Steady ahead.standard marchFirst := by
    refine ahead_steady fun other hother => ?_
    cases hother
  obtain ⟨first, last, hfebruary, spans, -, -, march, hmarch, -, hnext⟩ :=
    (periodRange_tiles steady (by decide +kernel) steady' (by decide +kernel)).1 .thisMonth rfl
  have hmonths : marchFirst.reading.date.month ≠ leapNoon.reading.date.month := by decide +kernel
  have hleap := (spans.names_iff leapNoon.reading.date).mp ⟨rfl, rfl⟩
  have hmarchDay := mt (spans.names_iff marchFirst.reading.date).mpr fun h => hmonths h.2
  have hdays : leapNoon.reading.date.days = 738944 ∧ marchFirst.reading.date.days = 738945 := ⟨rfl, rfl⟩
  have hlast : last.days = 738944 := by
    omega
  refine ⟨_, march, hfebruary, hmarch, hnext ⟨738945, by decide⟩ ?_ ⟨rfl, rfl⟩⟩
  rw [hlast]

end GridQuery
