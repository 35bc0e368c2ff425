import GridQuery.Calendar.ZoneText
import GridQuery.Period
import GridQuery.Proofs.Calendar.SummerTime

/-!
# The day of the local clock

The range of today is taken for a day: all instants at which the local clock shows the date, up to its last
millisecond, and no others.  It is one if and only if the clock comes to midnight and does not fall behind it
again, and comes to the last millisecond of the day once.
-/

namespace GridQuery

/-- A reading of the clock of the zone: one without offset, or what the clock shows at some moment. -/
def Zone.Gives (zone : Zone) (now : Timestamp) : Prop :=
  ∀ offset, now.offset = some offset → ∃ utc, zone.ofUtc utc = .ok ⟨now.reading, offset⟩

/-- At the instants from one to another, and at no others, the clock of the zone shows the date and a time
that is no later than the last millisecond. -/
structure Zone.IsDay (zone : Zone) (date : Date) (start stop : Instant) : Prop where
  covers : ∀ t seen, zone.onClock t = .ok seen → seen.reading.date = date →
    seen.reading.timeOfDay ≤ lastMilli → start.micros ≤ t.micros ∧ t.micros ≤ stop.micros
  shows : ∀ t : Instant, start.micros ≤ t.micros → t.micros ≤ stop.micros →
    ∃ seen, zone.onClock t = .ok seen ∧ seen.reading.date = date

namespace Date

def opening (date : Date) : Int := date.days * 86400000000

def closing (date : Date) : Int := date.opening + 86399999000

end Date

namespace Reading
variable {reading : Reading} {date : Date}

theorem date_eq_iff : reading.date = date ↔
    date.opening ≤ reading.micros ∧ reading.micros < date.opening + 86400000000 := by
  have hdays : reading.date = date ↔ reading.micros / 86400000000 = date.days := by
    rw [Date.mk.injEq]
    rfl
  rw [hdays]
  unfold Date.opening
  omega

theorem date_spec (reading : Reading) : reading.date.opening ≤ reading.micros ∧
    reading.micros < reading.date.opening + 86400000000 :=
  date_eq_iff.mp rfl

theorem timeOfDay_le_lastMilli_iff (h : reading.date = date) :
    reading.timeOfDay ≤ lastMilli ↔ (reading.micros : Int) ≤ date.closing := by
  have hdays := Nat.div_add_mod reading.micros 86400000000
  have hdate : reading.micros / 86400000000 = date.days := by
    rw [← h]
    rfl
  unfold Date.closing Date.opening timeOfDay
  change reading.micros % 86400000000 ≤ 86399999000 ↔ _
  omega

end Reading

namespace Zone
variable {zone : Zone} {now : Timestamp} {date : Date} {start stop : Instant}

/-- Bounds are taken on the local clock, whether a reading comes from it with its offset or without. -/
theorem Gives.attachTo_eq (gives : zone.Gives now) (reading : Reading) :
    attachTo zone now reading = zone.attach reading := by
  have hlocal : inLocalZone zone now = .ok true := by
    unfold inLocalZone
    split
    · rfl
    · rename_i offset hoffset
      obtain ⟨utc, hutc⟩ := gives offset hoffset
      rw [onClock_of_ofUtc hutc]
      exact congrArg Except.ok (decide_eq_true rfl)
  unfold attachTo
  rw [hlocal]
  rfl

/-- A range is the day if and only if it is, counted in microseconds, where the clock shows its readings. -/
theorem isDay_iff (hlow : 2 * 86400000000 ≤ date.opening)
    (hhigh : date.closing + 3 * 86400000000 ≤ 3652059 * 86400000000)
    (hstart : date.opening - 86400000000 ≤ start.micros)
    (hstop : stop.micros ≤ date.closing + 86400000000) :
    zone.IsDay date start stop ↔
      (∀ moment, date.opening ≤ zone.shown moment → zone.shown moment ≤ date.closing →
        start.micros ≤ moment ∧ moment ≤ stop.micros) ∧
      ∀ moment, start.micros ≤ moment → moment ≤ stop.micros →
        date.opening ≤ zone.shown moment ∧ zone.shown moment < date.opening + 86400000000 := by
  have hclosing : date.closing = date.opening + 86399999000 := rfl
  have instant (moment : Int) (h : 0 ≤ moment ∧ moment < 3652059 * 86400000000) :
      ∃ t : Instant, t.micros = moment := by
    obtain ⟨utc, hutc, hmicros⟩ := Reading.exists_ofMicros? moment h.1 h.2
    exact ⟨.ofUtc utc, (Int.sub_zero _).trans hmicros⟩
  constructor
  · intro day
    constructor
    · intro moment hopen hclose
      have hoffset := (zone.offsetAt moment).bounded
      have hnear : moment + (zone.offsetAt moment).micros = zone.shown moment := rfl
      obtain ⟨t, rfl⟩ := instant moment (by omega)
      obtain ⟨seen, hseen, hmicros, -⟩ := @onClock_eq zone t (by omega) (by omega)
      have hdate : seen.reading.date = date := Reading.date_eq_iff.mpr (by omega)
      exact day.covers t seen hseen hdate ((Reading.timeOfDay_le_lastMilli_iff hdate).mpr (by omega))
    · intro moment hafter hbefore
      obtain ⟨t, rfl⟩ := instant moment (by omega)
      obtain ⟨seen, hseen, hdate⟩ := day.shows t hafter hbefore
      rw [← (micros_of_onClock hseen).2]
      exact Reading.date_eq_iff.mp hdate
  · rintro ⟨covers, shows⟩
    constructor
    · intro t seen hseen hdate htime
      have hmicros := (micros_of_onClock hseen).2
      have hclose := (Reading.timeOfDay_le_lastMilli_iff hdate).mp htime
      rw [Reading.date_eq_iff] at hdate
      exact covers t.micros (by omega) (by omega)
    · intro t hafter hbefore
      obtain ⟨seen, hseen, hmicros, -⟩ := @onClock_eq zone t (by omega) (by omega)
      refine ⟨seen, hseen, Reading.date_eq_iff.mpr ?_⟩
      rw [hmicros]
      exact shows t.micros hafter hbefore

section Change
variable {first last change : Int} {before after : Offset}
  (changes : zone.ChangesOnce first last change before after)
  (hfirst : first + 2 * 86400000000 ≤ date.opening) (hlast : date.closing + 86400000000 ≤ last)
include changes hfirst hlast

theorem ChangesOnce.exists_bounds (hlow : 3 * 86400000000 ≤ date.opening)
    (hhigh : date.closing + 2 * 86400000000 ≤ 3652059 * 86400000000) :
    ∃ start stop, zone.attach (.midnight date) = .ok start ∧
      zone.attach (.ofDate date lastMilli) = .ok stop ∧
      start.micros = date.opening -
        (if date.opening < change + before.micros then before.micros else after.micros) ∧
      stop.micros = date.closing -
        if date.closing < change + before.micros then before.micros else after.micros := by
  have hclosing : date.closing = date.opening + 86399999000 := rfl
  have hopen : ((Reading.midnight date).micros : Int) = date.opening := rfl
  have hclose : ((Reading.ofDate date lastMilli).micros : Int) = date.closing := rfl
  obtain ⟨start, hstart, -, hstartMicros⟩ := @ChangesOnce.attach_eq zone first last change before after
    (.midnight date) changes (by omega) (by omega) (by omega) (by omega)
  obtain ⟨stop, hstop, -, hstopMicros⟩ := @ChangesOnce.attach_eq zone first last change before after
    (.ofDate date lastMilli) changes (by omega) (by omega) (by omega) (by omega)
  rw [hopen] at hstartMicros
  rw [hclose] at hstopMicros
  exact ⟨start, stop, hstart, hstop, hstartMicros, hstopMicros⟩

/-- The bounds hold the day if both are shown, the clock does not fall behind the first again, and the second
is not shown twice. -/
theorem ChangesOnce.isDay_iff (hlow : 2 * 86400000000 ≤ date.opening)
    (hhigh : date.closing + 3 * 86400000000 ≤ 3652059 * 86400000000)
    (hwhole : 1000000 ∣ change ∧ 1000000 ∣ before.micros ∧ 1000000 ∣ after.micros)
    (hstart : start.micros = date.opening -
      if date.opening < change + before.micros then before.micros else after.micros)
    (hstop : stop.micros = date.closing -
      if date.closing < change + before.micros then before.micros else after.micros) :
    zone.IsDay date start stop ↔ ¬zone.Skips date.opening ∧ ¬zone.FallsBehind date.opening ∧
      ¬zone.Skips date.closing ∧ ¬zone.Repeats date.closing := by
  have hbefore := before.bounded
  have hafter := after.bounded
  have hclosing : date.closing = date.opening + 86399999000 := rfl
  have hopening : 1000000 ∣ date.opening := Dvd.intro_left ((date.days : Int) * 86400) (by
    unfold Date.opening
    omega)
  rw [Zone.isDay_iff hlow hhigh (by split at hstart <;> omega) (by split at hstop <;> omega),
    changes.skips_iff (by omega) (by omega), changes.skips_iff (by omega) (by omega),
    changes.fallsBehind_iff (by omega) (by omega), changes.repeats_iff (by omega) (by omega)]
  constructor
  · rintro ⟨covers, shows⟩
    have hopens : ¬(change + before.micros ≤ date.opening ∧ date.opening < change + after.micros) := by
      rintro ⟨hskipped, hlate⟩
      rw [if_neg (by omega)] at hstart hstop
      have hshown := shows start.micros (by omega) (by omega)
      have hsides := changes.shown_cases start.micros (by omega) (by omega)
      omega
    refine ⟨hopens, ?_, ?_, ?_⟩
    · rintro ⟨hback, hahead⟩
      rw [if_pos hahead] at hstart
      by_cases hclose : date.closing < change + before.micros
      · rw [if_pos hclose] at hstop
        have hsides := changes.shown_cases (date.closing - after.micros) (by omega) (by omega)
        have hcovered := covers (date.closing - after.micros) (by omega) (by omega)
        omega
      · rw [if_neg hclose] at hstop
        have hsides := changes.shown_cases change (by omega) (by omega)
        have hshown := shows change (by omega) (by omega)
        omega
    · rintro ⟨hskipped, hlate⟩
      rw [if_neg (by omega)] at hstop
      have hsides := changes.shown_cases (change - 1) (by omega) (by omega)
      have hcovered := covers (change - 1) (by omega) (by omega)
      omega
    · rintro ⟨hback, htwice⟩
      rw [if_pos htwice] at hstop
      have hsides := changes.shown_cases (date.closing - after.micros) (by omega) (by omega)
      have hcovered := covers (date.closing - after.micros) (by omega) (by omega)
      omega
  · rintro ⟨hopens, hahead, hcloses, honce⟩
    constructor
    · intro moment hopen hclose
      have hoffset := (zone.offsetAt moment).bounded
      have hnear : moment + (zone.offsetAt moment).micros = zone.shown moment := rfl
      have hsides := changes.shown_cases moment (by omega) (by omega)
      split at hstart <;> split at hstop <;> omega
    · intro moment hopen hclose
      have hsides := changes.shown_cases moment (by split at hstart <;> omega) (by split at hstop <;> omega)
      split at hstart <;> split at hstop <;> omega

end Change

end Zone

section Range
variable {zone : Zone} {now : Timestamp} {operator : Operator} {first last : Date} {start stop : Instant}

theorem periodRange_eq (hdays : periodDays now.reading.date operator = some (some first, some last))
    (hstart : attachTo zone now (.midnight first) = .ok start)
    (hstop : attachTo zone now (.ofDate last lastMilli) = .ok stop) :
    periodRange zone operator now = .ok (start, stop) := by
  unfold periodRange
  simp only [hdays, hstart, hstop]

end Range

/-- With at most one change of the clock around it, by whole seconds, the range of today is the day of the
local clock if and only if the clock shows midnight and does not fall behind it again, and shows the last
millisecond once.  The range of yesterday ends before it, unless the clock skips midnight and not what comes
before. -/
theorem periodRange_today_isDay_iff {zone : Zone} {now : Timestamp} {change : Int} {before after : Offset}
    (gives : zone.Gives now) (hyear : 2 ≤ now.reading.date.year ∧ now.reading.date.year ≤ 9998)
    (changes : zone.ChangesOnce (now.reading.date.opening - 3 * 86400000000)
      (now.reading.date.opening + 2 * 86400000000) change before after)
    (hwhole : 1000000 ∣ change ∧ 1000000 ∣ before.micros ∧ 1000000 ∣ after.micros) :
    ∃ today yesterday, periodRange zone .today now = .ok today ∧
      periodRange zone .yesterday now = .ok yesterday ∧
      (zone.IsDay now.reading.date today.1 today.2 ↔
        ¬zone.Skips now.reading.date.opening ∧ ¬zone.FallsBehind now.reading.date.opening ∧
          ¬zone.Skips now.reading.date.closing ∧ ¬zone.Repeats now.reading.date.closing) ∧
      (yesterday.2.micros < today.1.micros ↔
        (zone.Skips now.reading.date.opening → zone.Skips (now.reading.date.opening - 1000))) := by
  generalize hdate : now.reading.date = date at *
  obtain ⟨hearly, hlate⟩ := Date.days_of_year hyear.1 hyear.2
  have hopening : date.opening = (date.days : Int) * 86400000000 := rfl
  have hclosing : date.closing = date.opening + 86399999000 := rfl
  obtain ⟨previous, hprevious, hdays⟩ := @Date.exists_shift? date (-1) (by omega) (by omega)
  have hopening' : previous.opening = (previous.days : Int) * 86400000000 := rfl
  have hclosing' : previous.closing = previous.opening + 86399999000 := rfl
  obtain ⟨start, stop, hstart, hstop, hstartMicros, hstopMicros⟩ :=
    @Zone.ChangesOnce.exists_bounds zone date _ _ change before after changes (by omega) (by omega)
      (by omega) (by omega)
  obtain ⟨first, last, hfirst, hlast, -, hlastMicros⟩ :=
    @Zone.ChangesOnce.exists_bounds zone previous _ _ change before after changes (by omega) (by omega)
      (by omega) (by omega)
  rw [← gives.attachTo_eq] at hstart hstop hfirst hlast
  refine ⟨(start, stop), (first, last), ?_, ?_, ?_, ?_⟩
  · refine periodRange_eq ?_ hstart hstop
    rw [hdate]
    rfl
  · refine periodRange_eq ?_ hfirst hlast
    rw [hdate, periodDays, hprevious]
  · exact changes.isDay_iff (by omega) (by omega) (by omega) (by omega) hwhole hstartMicros hstopMicros
  · dsimp only
    rw [changes.skips_iff (by omega) (by omega), changes.skips_iff (by omega) (by omega)]
    split at hstartMicros <;> split at hlastMicros <;> omega

def noon : Fin 86400000000 := ⟨43200000000, by decide⟩

/-- The day in March 2024 on which clocks in the United States are set forward. -/
def marchDay : Date := ⟨738954, by decide⟩

/-- The east coast, where that is done at two o'clock. -/
def eastCoast : Zone := .ofText "EST5EDT,M3.2.0,M11.1.0"

def eastCoastSummer : Summer := ⟨⟨-14400000000, by decide⟩, ⟨.inMonth 3 2 0, 7200⟩, ⟨.inMonth 11 1 0, 7200⟩⟩

theorem eastCoast_summer : eastCoast.summer = some eastCoastSummer := by decide +kernel

theorem eastCoast_changesOnce : eastCoast.ChangesOnce (marchDay.opening - 3 * 86400000000)
    (marchDay.opening + 2 * 86400000000) (eastCoastSummer.startIn eastCoast.standard 2024)
    eastCoast.standard eastCoastSummer.offset :=
  Zone.changesOnce_of_start eastCoast_summer (by decide +kernel) (by decide +kernel)
    (.inl (by decide +kernel)) (by decide +kernel)

def eastCoastNoon : Timestamp :=
  ⟨.ofDate marchDay noon, some eastCoastSummer.offset⟩

theorem eastCoastNoon_gives : eastCoast.Gives eastCoastNoon := by
  intro offset hoffset
  cases hoffset
  refine ⟨.ofDate marchDay ⟨57600000000, by decide⟩, ?_⟩
  decide +kernel

theorem periodRange_today_isDay_iff_eastCoast :
    eastCoast.Gives eastCoastNoon ∧
      ∃ today, periodRange eastCoast .today eastCoastNoon = .ok today ∧
        eastCoast.IsDay marchDay today.1 today.2 := by
  have hdate : eastCoastNoon.reading.date = marchDay := by decide +kernel
  have hclosing : marchDay.closing = marchDay.opening + 86399999000 := rfl
  have hchange : eastCoastSummer.startIn eastCoast.standard 2024 = marchDay.opening + 25200000000 := by
    decide +kernel
  have hbefore : eastCoast.standard.micros = -18000000000 := by decide +kernel
  have hafter : eastCoastSummer.offset.micros = -14400000000 := rfl
  obtain ⟨today, -, htoday, -, hday, -⟩ := periodRange_today_isDay_iff eastCoastNoon_gives
    (by decide +kernel) (by rw [hdate]; exact eastCoast_changesOnce) (by decide +kernel)
  rw [hdate, eastCoast_changesOnce.skips_iff (by omega) (by omega),
    eastCoast_changesOnce.fallsBehind_iff (by omega) (by omega),
    eastCoast_changesOnce.skips_iff (by omega) (by omega),
    eastCoast_changesOnce.repeats_iff (by omega) (by omega)] at hday
  exact ⟨eastCoastNoon_gives, today, htoday, hday.mpr (by omega)⟩

/-- Clocks that are set forward on the same day, and at midnight. -/
def noMidnight : Zone := .ofText "CST5CDT,M3.2.0/0,M11.1.0/1"

def noMidnightNoon : Timestamp := ⟨.ofDate marchDay noon, none⟩

def lateStart : Instant :=
  ⟨⟨738954 * 86400000000 - 3600000000, by decide⟩, ⟨-18000000000, by decide⟩⟩

def marchStop : Instant := ⟨.ofDate marchDay lastMilli, ⟨-14400000000, by decide⟩⟩

theorem periodRange_today_not_isDay_noMidnight :
    noMidnight.Gives noMidnightNoon ∧
      (2 ≤ noMidnightNoon.reading.date.year ∧ noMidnightNoon.reading.date.year ≤ 9998) ∧
      (periodRange noMidnight .today noMidnightNoon).toOption = some (lateStart, marchStop) ∧
      ¬noMidnight.IsDay noMidnightNoon.reading.date lateStart marchStop ∧
      ∃ first last, (periodRange noMidnight .yesterday noMidnightNoon).toOption = some (first, last) ∧
        ¬last.micros < lateStart.micros := by
  refine ⟨?_, by decide +kernel, by decide +kernel, ?_, ?_⟩
  · intro offset hoffset
    cases hoffset
  · intro day
    have hlocal : noMidnight.onClock lateStart = .ok lateStart := by decide +kernel
    obtain ⟨seen, hseen, hdate⟩ := day.shows lateStart (Int.le_refl _) (by decide)
    have hother : lateStart.reading.date ≠ noMidnightNoon.reading.date := by decide +kernel
    rw [hlocal, Except.ok.injEq] at hseen
    exact hother (hseen ▸ hdate)
  · refine ⟨⟨⟨738953 * 86400000000, by decide⟩, lateStart.offset⟩,
      ⟨⟨738953 * 86400000000 + 86399999000, by decide⟩, lateStart.offset⟩, ?_, ?_⟩
    · decide +kernel
    · decide

end GridQuery
