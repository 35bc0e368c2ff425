import GridQuery.Calendar.ZoneText
import GridQuery.Proofs.Calendar.Rereading
import GridQuery.Proofs.Calendar.Utc
import GridQuery.Proofs.Steps

/-!
# Offsets that writing keeps

An offset of less than a second is lost where a timestamp is read.  So none is read, and the offsets of
written zones are whole seconds: what comes from a text or from a clock can be written and read again.
-/

namespace GridQuery

namespace Iso
variable {text : List Char} {micros : Int}

theorem offsetMicros_kept (sign : Char) (clock : Clock) :
    offsetMicros sign clock = 0 ∨ 1000000 ≤ (offsetMicros sign clock).natAbs := by
  simp only [offsetMicros]
  split
  · exact .inl rfl
  · split
    · omega
    · omega

theorem offset_of_timeFields? {fields : TimeFields} (h : timeFields? text = some fields)
    (hoffset : fields.offset = some micros) : micros = 0 ∨ 1000000 ≤ micros.natAbs := by
  unfold timeFields? at h
  obtain ⟨clock, _, h⟩ := Option.bind_eq_some_iff.mp h
  split at h
  · split at h
    · cases h
      cases hoffset
    · cases h
  · rename_i sign rest _
    obtain ⟨ahead, _, h⟩ := Option.bind_eq_some_iff.mp h
    split at h
    · cases h
      cases hoffset
      exact offsetMicros_kept sign ahead
    · cases h

theorem offset_of_stampFields? {date : DateFields} {fields : TimeFields}
    (h : stampFields? text = some (date, fields)) (hoffset : fields.offset = some micros) :
    micros = 0 ∨ 1000000 ≤ micros.natAbs := by
  unfold stampFields? at h
  split at h
  · cases h
  · obtain ⟨found, _, h⟩ := Option.bind_eq_some_iff.mp h
    split at h
    · cases h
      cases hoffset
    · obtain ⟨time, htime, h⟩ := Option.bind_eq_some_iff.mp h
      cases h
      exact offset_of_timeFields? htime hoffset

end Iso

theorem Timestamp.kept_of_ofIso {text : String} {stamp : Timestamp} {offset : Offset}
    (h : ofIso text = .ok stamp) (hoffset : stamp.offset = some offset) : offset.Kept := by
  unfold ofIso at h
  split at h
  · cases h
  · rename_i date fields hfields
    obtain ⟨found, hfound, h⟩ := Steps.bind_eq_ok_iff.mp h
    obtain ⟨day, _, h⟩ := Steps.bind_eq_ok_iff.mp h
    obtain ⟨time, _, h⟩ := Steps.bind_eq_ok_iff.mp h
    cases h
    obtain rfl : found = some offset := hoffset
    unfold Iso.checkOffset at hfound
    split at hfound
    · cases hfound
    · rename_i micros hmicros
      split at hfound
      · rename_i other hother
        cases hfound
        unfold Offset.ofMicros? at hother
        split at hother
        · cases hother
          exact Iso.offset_of_stampFields? hfields hmicros
        · cases hother
      · cases hfound

/-- The clocks of the zone differ from UTC by whole seconds. -/
structure Zone.WholeSeconds (zone : Zone) : Prop where
  standard : 1000000 ∣ zone.standard.micros
  summer : ∀ summer ∈ zone.summer, 1000000 ∣ summer.offset.micros

theorem Offset.kept_of_dvd {offset : Offset} (h : 1000000 ∣ offset.micros) : offset.Kept := by
  unfold Kept
  omega

namespace Zone
variable {zone : Zone} {stamp : Timestamp} {t : Instant}

theorem wholeSeconds_utc : utc.WholeSeconds where
  standard := Int.dvd_zero 1000000
  summer := by
    intro summer hsummer
    cases hsummer

theorem WholeSeconds.kept_offsetAt (whole : zone.WholeSeconds) (moment : Int) :
    (zone.offsetAt moment).Kept := by
  unfold offsetAt
  split
  · rename_i summer hsummer
    split
    · exact Offset.kept_of_dvd (whole.summer summer hsummer)
    · exact Offset.kept_of_dvd whole.standard
  · exact Offset.kept_of_dvd whole.standard

/-- A timestamp that was read names an instant with such an offset, and so does one without offset. -/
theorem WholeSeconds.kept_of_instantOf (whole : zone.WholeSeconds)
    (hstamp : ∀ offset, stamp.offset = some offset → offset.Kept) (h : zone.instantOf stamp = .ok t) :
    t.offset.Kept := by
  unfold instantOf at h
  split at h
  · rename_i offset hoffset
    cases h
    exact hstamp offset hoffset
  · obtain ⟨reading, hreading⟩ := exists_ofUtc_of_attach h
    rw [offset_of_ofUtc hreading]
    exact whole.kept_offsetAt _

end Zone

theorem ZoneText.dvd_of_offset? {behind : Int} {offset : Offset} (h : offset? behind = some offset) :
    1000000 ∣ offset.micros := by
  unfold offset? Offset.ofMicros? at h
  split at h
  · cases h
    exact Int.dvd_mul_left (-behind) 1000000
  · cases h

theorem ZoneText.dvd_of_summer? {behind : Int} {text : List Char} {summer : Summer}
    (h : summer? behind text = some summer) : 1000000 ∣ summer.offset.micros := by
  unfold summer? at h
  obtain ⟨_, _, h⟩ := Option.bind_eq_some_iff.mp h
  obtain ⟨_, _, h⟩ := Option.bind_eq_some_iff.mp h
  obtain ⟨offset, hoffset, h⟩ := Option.bind_eq_some_iff.mp h
  cases h
  exact dvd_of_offset? hoffset

theorem Zone.wholeSeconds_ofText (text : String) : (ofText text).WholeSeconds := by
  unfold ofText
  split
  · exact wholeSeconds_utc
  · rename_i behind rest _
    split
    · exact wholeSeconds_utc
    · rename_i standard hstandard
      refine ⟨ZoneText.dvd_of_offset? hstandard, ?_⟩
      intro summer hsummer
      change summer ∈ if rest.isEmpty then none else ZoneText.summer? behind rest at hsummer
      split at hsummer
      · cases hsummer
      · exact ZoneText.dvd_of_summer? hsummer

end GridQuery
