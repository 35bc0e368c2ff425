import GridQuery.Proofs.Calendar.Utc
import GridQuery.Proofs.Steps

/-!
# The clock of a zone

What the clock of a zone shows, and the instant that a reading on it is taken for.  Around a moment at which
the clock is changed, and at no other, the instant is the one with the offset in force until then, if the
reading comes before the change, and with the offset that comes into force otherwise.  So a reading that is
shown twice means the first time, and one that the clock skips means an instant before the change.
-/

namespace GridQuery

theorem Reading.exists_ofMicros? (micros : Int) (hlow : 0 ≤ micros)
    (hhigh : micros < 3652059 * 86400000000) :
    ∃ reading, ofMicros? micros = some reading ∧ (reading.micros : Int) = micros := by
  unfold ofMicros?
  rw [dif_pos ⟨hlow, hhigh⟩]
  exact ⟨_, rfl, Int.toNat_of_nonneg hlow⟩

namespace Zone

def shown (zone : Zone) (moment : Int) : Int := moment + (zone.offsetAt moment).micros

/-- At no moment does the clock show the reading. -/
def Skips (zone : Zone) (reading : Int) : Prop := ∀ moment, zone.shown moment ≠ reading

/-- The clock shows the reading at two moments. -/
def Repeats (zone : Zone) (reading : Int) : Prop :=
  ∃ first second, first < second ∧ zone.shown first = reading ∧ zone.shown second = reading

/-- After it has come to the reading, the clock shows an earlier one. -/
def FallsBehind (zone : Zone) (reading : Int) : Prop :=
  ∃ first second, first < second ∧ reading ≤ zone.shown first ∧ zone.shown second < reading

/-- From one moment to another the clock is changed at most once, and not set back by more than a day. -/
structure ChangesOnce (zone : Zone) (first last change : Int) (before after : Offset) : Prop where
  offsetAt_eq : ∀ moment, first ≤ moment → moment ≤ last →
    zone.offsetAt moment = if moment < change then before else after
  back_le : before.micros - after.micros ≤ 86400000000

variable {zone : Zone} {first last change reading : Int} {before after : Offset}

theorem clockAt_eq {moment : Int} (hlow : 86400000000 ≤ moment)
    (hhigh : moment + 86400000000 ≤ 3652059 * 86400000000) :
    zone.clockAt moment = .ok (zone.shown moment) := by
  have hoffset := (zone.offsetAt moment).bounded
  unfold clockAt shown
  apply if_pos
  omega

/-- The moment that is found for a reading: with the offset in force at that time of UTC, or with the one in
force a day before what was found, or at it if the clock shows something else then. -/
def found (zone : Zone) (reading : Int) : Int :=
  let ahead := (zone.offsetAt reading).micros
  let first := reading - ahead
  let behind := if zone.shown first = reading then (zone.offsetAt (first - 86400000000)).micros
    else (zone.offsetAt first).micros
  let second := reading - behind
  if zone.shown first = reading ∧ ahead = behind then first
  else if zone.shown second = reading then second
  else if zone.shown first = reading then first
  else max first second

theorem shown_sub (zone : Zone) (moment : Int) :
    zone.shown moment - moment = (zone.offsetAt moment).micros := by
  unfold shown
  omega

theorem momentOf_eq (hlow : 3 * 86400000000 ≤ reading)
    (hhigh : reading + 2 * 86400000000 ≤ 3652059 * 86400000000) :
    zone.momentOf reading = .ok (zone.found reading) := by
  have hoffset := (zone.offsetAt reading).bounded
  refine Steps.bind_eq_ok_iff.mpr ⟨_, clockAt_eq (by omega) (by omega), ?_⟩
  rw [shown_sub]
  refine Steps.bind_eq_ok_iff.mpr ⟨_, clockAt_eq (by omega) (by omega), ?_⟩
  unfold found
  dsimp only
  generalize hahead : (zone.offsetAt reading).micros = ahead at *
  generalize hfirst : reading - ahead = first at *
  have settle (behind : Int) (hbehind : -86400000000 < behind ∧ behind < 86400000000) :
      (if zone.shown first = reading ∧ ahead = behind then pure first
        else do
          let secondShown ← zone.clockAt (reading - behind)
          if secondShown = reading then pure (reading - behind)
          else if zone.shown first = reading then pure first
          else pure (max first (reading - behind))) =
        Except.ok (if zone.shown first = reading ∧ ahead = behind then first
          else if zone.shown (reading - behind) = reading then reading - behind
          else if zone.shown first = reading then first
          else max first (reading - behind)) := by
    split
    · rfl
    · refine Steps.bind_eq_ok_iff.mpr ⟨_, clockAt_eq (by omega) (by omega), ?_⟩
      split
      · rfl
      · split
        · rfl
        · rfl
  by_cases hshown : zone.shown first = reading
  · rw [if_pos hshown, if_pos hshown]
    refine Steps.bind_eq_ok_iff.mpr ⟨_, clockAt_eq (by omega) (by omega), ?_⟩
    refine Steps.bind_eq_ok_iff.mpr ⟨_, rfl, ?_⟩
    rw [shown_sub]
    exact settle _ (Offset.bounded _)
  · rw [if_neg hshown, if_neg hshown]
    refine Steps.bind_eq_ok_iff.mpr ⟨_, rfl, ?_⟩
    rw [shown_sub]
    exact settle _ (Offset.bounded _)

section Search
variable {ahead behind : Int}

theorem found_of_shown (hahead : (zone.offsetAt reading).micros = ahead)
    (hshown : zone.shown (reading - ahead) = reading)
    (hbehind : (zone.offsetAt (reading - ahead - 86400000000)).micros = behind) :
    zone.found reading = if ahead = behind then reading - ahead
      else if zone.shown (reading - behind) = reading then reading - behind else reading - ahead := by
  unfold found
  dsimp only
  rw [hahead, if_pos hshown, hbehind]
  simp only [hshown, true_and, if_true]

theorem found_of_not_shown (hahead : (zone.offsetAt reading).micros = ahead)
    (hshown : zone.shown (reading - ahead) ≠ reading)
    (hbehind : (zone.offsetAt (reading - ahead)).micros = behind) :
    zone.found reading = if zone.shown (reading - behind) = reading then reading - behind
      else max (reading - ahead) (reading - behind) := by
  unfold found
  dsimp only
  rw [hahead, if_neg hshown, hbehind]
  simp only [hshown, false_and, if_false]

end Search

section Changes
variable (changes : zone.ChangesOnce first last change before after)
include changes

theorem ChangesOnce.micros_before {moment : Int} (hfirst : first ≤ moment) (hlast : moment ≤ last)
    (h : moment < change) : (zone.offsetAt moment).micros = before.micros := by
  rw [changes.offsetAt_eq moment hfirst hlast, if_pos h]

theorem ChangesOnce.micros_after {moment : Int} (hfirst : first ≤ moment) (hlast : moment ≤ last)
    (h : change ≤ moment) : (zone.offsetAt moment).micros = after.micros := by
  rw [changes.offsetAt_eq moment hfirst hlast, if_neg (by omega)]

theorem ChangesOnce.shown_cases (moment : Int) (hfirst : first ≤ moment) (hlast : moment ≤ last) :
    moment < change ∧ zone.shown moment = moment + before.micros ∨
      change ≤ moment ∧ zone.shown moment = moment + after.micros := by
  unfold shown
  rcases Int.lt_or_le moment change with h | h
  · exact .inl ⟨h, by rw [changes.micros_before hfirst hlast h]⟩
  · exact .inr ⟨h, by rw [changes.micros_after hfirst hlast h]⟩

section Found
variable (hfirst : first + 2 * 86400000000 ≤ reading) (hlast : reading + 86400000000 ≤ last)
include hfirst hlast

theorem ChangesOnce.found_of_same (hsame : before.micros = after.micros) :
    zone.found reading = reading - before.micros := by
  have hbefore := before.bounded
  have hoffset (moment : Int) (hlow : first ≤ moment) (hhigh : moment ≤ last) :
      (zone.offsetAt moment).micros = before.micros := by
    rcases Int.lt_or_le moment change with h | h
    · exact changes.micros_before hlow hhigh h
    · exact (changes.micros_after hlow hhigh h).trans hsame.symm
  have hshown : zone.shown (reading - before.micros) = reading := by
    rw [shown, hoffset _ (by omega) (by omega)]
    omega
  rw [found_of_shown (hoffset _ (by omega) (by omega)) hshown (hoffset _ (by omega) (by omega)),
    if_pos rfl]

theorem ChangesOnce.found_of_before (hne : before.micros ≠ after.micros)
    (h : reading < change + before.micros) : zone.found reading = reading - before.micros := by
  have hbefore := before.bounded
  have hafter := after.bounded
  have hback := changes.back_le
  have hshown : zone.shown (reading - before.micros) = reading := by
    rw [shown, changes.micros_before (by omega) (by omega) (by omega)]
    omega
  rcases Int.lt_or_le reading change with hreading | hreading
  · rw [found_of_shown (changes.micros_before (by omega) (by omega) hreading) hshown
      (changes.micros_before (by omega) (by omega) (by omega)), if_pos rfl]
  · have hahead : (zone.offsetAt reading).micros = after.micros :=
      changes.micros_after (by omega) (by omega) hreading
    rcases changes.shown_cases (reading - after.micros) (by omega) (by omega) with
      ⟨hside, hfound⟩ | ⟨hside, hfound⟩
    · rw [found_of_not_shown hahead (by omega) (changes.micros_before (by omega) (by omega) hside),
        if_pos hshown]
    · rw [found_of_shown hahead (by omega) (changes.micros_before (by omega) (by omega) (by omega)),
        if_neg hne.symm, if_pos hshown]

theorem ChangesOnce.found_of_after (hne : before.micros ≠ after.micros)
    (h : change + before.micros ≤ reading) (hshown : change + after.micros ≤ reading) :
    zone.found reading = reading - after.micros := by
  have hbefore := before.bounded
  have hafter := after.bounded
  have hother : (zone.offsetAt (reading - before.micros)).micros = after.micros :=
    changes.micros_after (by omega) (by omega) (by omega)
  have hnot : zone.shown (reading - before.micros) ≠ reading := by
    rw [shown, hother]
    omega
  have hfound : zone.shown (reading - after.micros) = reading := by
    rw [shown, changes.micros_after (by omega) (by omega) (by omega)]
    omega
  rcases Int.lt_or_le reading change with hreading | hreading
  · rw [found_of_not_shown (changes.micros_before (by omega) (by omega) hreading) hnot hother,
      if_pos hfound]
  · have hahead : (zone.offsetAt reading).micros = after.micros :=
      changes.micros_after (by omega) (by omega) hreading
    rcases Int.lt_or_le (reading - after.micros - 86400000000) change with hday | hday
    · rw [found_of_shown hahead hfound (changes.micros_before (by omega) (by omega) hday),
        if_neg hne.symm, if_neg hnot]
    · rw [found_of_shown hahead hfound (changes.micros_after (by omega) (by omega) hday), if_pos rfl]

/-- A reading that the clock skips is read with the offset until the change, and so behind it. -/
theorem ChangesOnce.found_of_skipped (h : change + before.micros ≤ reading)
    (hskipped : reading < change + after.micros) : zone.found reading = reading - before.micros := by
  have hbefore := before.bounded
  have hafter := after.bounded
  have hlate : (zone.offsetAt (reading - before.micros)).micros = after.micros :=
    changes.micros_after (by omega) (by omega) (by omega)
  have hearly : (zone.offsetAt (reading - after.micros)).micros = before.micros :=
    changes.micros_before (by omega) (by omega) (by omega)
  have hnot : zone.shown (reading - before.micros) ≠ reading := by
    rw [shown, hlate]
    omega
  have hnot' : zone.shown (reading - after.micros) ≠ reading := by
    rw [shown, hearly]
    omega
  rcases Int.lt_or_le reading change with hreading | hreading
  · rw [found_of_not_shown (changes.micros_before (by omega) (by omega) hreading) hnot hlate,
      if_neg hnot']
    omega
  · rw [found_of_not_shown (changes.micros_after (by omega) (by omega) hreading) hnot' hearly,
      if_neg hnot]
    omega

theorem ChangesOnce.offsetAt_found : (zone.offsetAt (zone.found reading)).micros =
    if reading < change + before.micros then before.micros else after.micros := by
  have hbefore := before.bounded
  have hafter := after.bounded
  by_cases hsame : before.micros = after.micros
  · rw [changes.found_of_same hfirst hlast hsame]
    split
    · exact changes.micros_before (by omega) (by omega) (by omega)
    · exact changes.micros_after (by omega) (by omega) (by omega)
  · split
    · rw [changes.found_of_before hfirst hlast hsame ‹_›]
      exact changes.micros_before (by omega) (by omega) (by omega)
    · rcases Int.lt_or_le reading (change + after.micros) with hskipped | hshown
      · rw [changes.found_of_skipped hfirst hlast (by omega) hskipped]
        exact changes.micros_after (by omega) (by omega) (by omega)
      · rw [changes.found_of_after hfirst hlast hsame (by omega) hshown]
        exact changes.micros_after (by omega) (by omega) (by omega)

end Found

section Shown
variable (hfirst : first + 86400000000 ≤ reading) (hlast : reading + 86400000000 ≤ last)
include hfirst hlast

theorem ChangesOnce.shown_eq_iff {moment : Int} : zone.shown moment = reading ↔
    moment < change ∧ moment = reading - before.micros ∨
      change ≤ moment ∧ moment = reading - after.micros := by
  have hbefore := before.bounded
  have hafter := after.bounded
  have hoffset := (zone.offsetAt moment).bounded
  constructor
  · intro h
    have hnear : reading - 86400000000 < moment ∧ moment < reading + 86400000000 := by
      unfold shown at h
      omega
    rcases changes.shown_cases moment (by omega) (by omega) with ⟨hside, hshown⟩ | ⟨hside, hshown⟩
    · exact .inl ⟨hside, by omega⟩
    · exact .inr ⟨hside, by omega⟩
  · rintro (⟨hside, rfl⟩ | ⟨hside, rfl⟩)
    · rw [shown, changes.micros_before (by omega) (by omega) hside]
      omega
    · rw [shown, changes.micros_after (by omega) (by omega) hside]
      omega

theorem ChangesOnce.skips_iff : zone.Skips reading ↔
    change + before.micros ≤ reading ∧ reading < change + after.micros := by
  unfold Skips
  constructor
  · intro h
    have hearly := h (reading - before.micros)
    have hlate := h (reading - after.micros)
    rw [Ne, changes.shown_eq_iff hfirst hlast] at hearly hlate
    omega
  · intro h moment hshown
    rw [changes.shown_eq_iff hfirst hlast] at hshown
    omega

theorem ChangesOnce.repeats_iff : zone.Repeats reading ↔
    change + after.micros ≤ reading ∧ reading < change + before.micros := by
  constructor
  · rintro ⟨early, late, hlt, hearly, hlate⟩
    rw [changes.shown_eq_iff hfirst hlast] at hearly hlate
    omega
  · intro h
    refine ⟨reading - before.micros, reading - after.micros, by omega, ?_, ?_⟩
    · exact (changes.shown_eq_iff hfirst hlast).mpr (.inl ⟨by omega, rfl⟩)
    · exact (changes.shown_eq_iff hfirst hlast).mpr (.inr ⟨by omega, rfl⟩)

theorem ChangesOnce.fallsBehind_iff : zone.FallsBehind reading ↔
    change + after.micros < reading ∧ reading < change + before.micros := by
  have hbefore := before.bounded
  have hafter := after.bounded
  constructor
  · rintro ⟨early, late, hlt, hearly, hlate⟩
    have hup := (zone.offsetAt early).bounded
    have hdown := (zone.offsetAt late).bounded
    have hnear : reading - 86400000000 < early ∧ late < reading + 86400000000 := by
      unfold shown at hearly hlate
      omega
    have hearlier := changes.shown_cases early (by omega) (by omega)
    have hlater := changes.shown_cases late (by omega) (by omega)
    omega
  · intro h
    refine ⟨change - 1, change, by omega, ?_, ?_⟩
    · rw [shown, changes.micros_before (by omega) (by omega) (by omega)]
      omega
    · rw [shown, changes.micros_after (by omega) (by omega) (by omega)]
      omega

end Shown

end Changes

section Instants
variable {t : Instant} {stamp : Reading}

theorem micros_of_ofUtc {utc : Reading} (h : zone.ofUtc utc = .ok t) :
    t.micros = utc.micros ∧ (t.reading.micros : Int) = zone.shown utc.micros := by
  simp only [ofUtc] at h
  split at h
  · rename_i seen hseen
    cases h
    have hmicros : (seen.micros : Int) = zone.shown utc.micros := Reading.micros_of_ofMicros? hseen
    refine ⟨?_, hmicros⟩
    rw [Instant.micros, hmicros]
    exact Int.add_sub_cancel _ _
  · cases h

theorem micros_of_onClock {seen : Instant} (h : zone.onClock t = .ok seen) :
    seen.micros = t.micros ∧ (seen.reading.micros : Int) = zone.shown t.micros := by
  unfold onClock at h
  split at h
  · rename_i utc hutc
    rw [← Reading.micros_of_toUtc? hutc]
    exact micros_of_ofUtc h
  · cases h

/-- What a reading of the local clock means is off from the same reading in UTC by the offset that it is read
with. -/
theorem micros_of_attach (h : zone.attach stamp = .ok t) : ∃ moment,
    zone.momentOf stamp.micros = .ok moment ∧ t.micros = stamp.micros - (zone.offsetAt moment).micros := by
  obtain ⟨moment, hmoment, hclock⟩ := Steps.bind_eq_ok_iff.mp h
  exact ⟨moment, hmoment, (micros_of_onClock hclock).1⟩

theorem onClock_of_ofUtc {utc : Reading} (h : zone.ofUtc utc = .ok t) : zone.onClock t = .ok t := by
  rw [onClock, Instant.toUtc?, (micros_of_ofUtc h).1, Reading.ofMicros?_micros]
  exact h

theorem onClock_eq (hlow : 86400000000 ≤ t.micros)
    (hhigh : t.micros + 86400000000 ≤ 3652059 * 86400000000) : ∃ seen, zone.onClock t = .ok seen ∧
      (seen.reading.micros : Int) = zone.shown t.micros ∧ seen.offset = zone.offsetAt t.micros := by
  have hbounded := (zone.offsetAt t.micros).bounded
  obtain ⟨utc, hutc, hmicros⟩ := Reading.exists_ofMicros? t.micros (by omega) (by omega)
  obtain ⟨seen, hseen, hshown⟩ := Reading.exists_ofMicros? (zone.shown t.micros)
    (by unfold shown; omega) (by unfold shown; omega)
  have hshift : utc.shift? (zone.offsetAt t.micros).micros = some seen := by
    rw [Reading.shift?, hmicros]
    exact hseen
  refine ⟨⟨seen, zone.offsetAt t.micros⟩, ?_, hshown, rfl⟩
  simp only [onClock, Instant.toUtc?, hutc, ofUtc, hmicros, hshift]

theorem exists_attach (hlow : 3 * 86400000000 ≤ stamp.micros)
    (hhigh : stamp.micros + 2 * 86400000000 ≤ 3652059 * 86400000000) :
    ∃ t, zone.attach stamp = .ok t ∧ t.offset = zone.offsetAt t.micros ∧
      t.micros = stamp.micros - (zone.offsetAt (zone.found stamp.micros)).micros := by
  have hbounded := (zone.offsetAt (zone.found stamp.micros)).bounded
  have hmicros : (Instant.mk stamp (zone.offsetAt (zone.found stamp.micros))).micros =
      stamp.micros - (zone.offsetAt (zone.found stamp.micros)).micros := rfl
  obtain ⟨t, ht, hshown, hoffset⟩ := @onClock_eq zone
    ⟨stamp, zone.offsetAt (zone.found stamp.micros)⟩ (by omega) (by omega)
  have htime : t.micros = stamp.micros - (zone.offsetAt (zone.found stamp.micros)).micros := by
    rw [(micros_of_onClock ht).1, hmicros]
  refine ⟨t, ?_, ?_, htime⟩
  · exact Steps.bind_eq_ok_iff.mpr ⟨_, momentOf_eq (by omega) (by omega), ht⟩
  · rw [hoffset, hmicros, htime]

/-- Around a change, a reading is taken for the instant with the offset until then, if it comes before the
change, and with the offset from then on otherwise, even if the clock never shows it. -/
theorem ChangesOnce.attach_eq (changes : zone.ChangesOnce first last change before after)
    (hfirst : first + 2 * 86400000000 ≤ stamp.micros) (hlast : stamp.micros + 86400000000 ≤ last)
    (hlow : 3 * 86400000000 ≤ stamp.micros)
    (hhigh : stamp.micros + 2 * 86400000000 ≤ 3652059 * 86400000000) :
    ∃ t, zone.attach stamp = .ok t ∧ t.offset = zone.offsetAt t.micros ∧
      t.micros = stamp.micros -
        if stamp.micros < change + before.micros then before.micros else after.micros := by
  rw [← changes.offsetAt_found hfirst hlast]
  exact exists_attach hlow hhigh

end Instants

end Zone

end GridQuery
