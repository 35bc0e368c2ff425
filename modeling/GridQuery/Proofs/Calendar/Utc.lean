import GridQuery.Projection

/-!
# Instants that a clock in UTC can show

Whatever is counted from 1970 or read on a local clock lies within the years of a clock in UTC.  Only a
reading that comes with its own offset can name an instant outside of them.
-/

namespace GridQuery

theorem Reading.eq_iff_micros {a b : Reading} : a = b ↔ a.micros = b.micros := by
  cases a
  cases b
  simp

theorem Reading.ofMicros?_isSome_iff {micros : Int} :
    (ofMicros? micros).isSome ↔ 0 ≤ micros ∧ micros < 3652059 * 86400000000 := by
  unfold ofMicros?
  split
  · rename_i h
    exact iff_of_true rfl h
  · rename_i h
    exact iff_of_false (by simp) h

theorem Reading.ofMicros?_micros (reading : Reading) : ofMicros? reading.micros = some reading := by
  have := reading.micros_lt
  unfold ofMicros?
  rw [dif_pos (by omega)]
  rfl

theorem Reading.micros_of_ofMicros? {micros : Int} {reading : Reading}
    (h : ofMicros? micros = some reading) : (reading.micros : Int) = micros := by
  unfold ofMicros? at h
  split at h
  · cases h
    exact Int.toNat_of_nonneg (by omega)
  · cases h

theorem Reading.micros_of_toUtc? {t : Instant} {r : Reading} (h : t.toUtc? = some r) :
    (r.micros : Int) = t.micros :=
  micros_of_ofMicros? h

namespace Instant

theorem toUtc?_ofUtc (reading : Reading) : (ofUtc reading).toUtc? = some reading := by
  have hmicros : (ofUtc reading).micros = reading.micros := Int.sub_zero _
  rw [toUtc?, hmicros, Reading.ofMicros?_micros]

theorem eq_ofUtc_of_ofEpoch {micros : Int} {t : Instant} (h : ofEpoch micros = .ok t) :
    ∃ reading, t = ofUtc reading := by
  simp only [ofEpoch] at h
  split at h
  · cases h
  · split at h
    · cases h
    · split at h
      · cases h
        exact ⟨_, rfl⟩
      · cases h

theorem eq_ofUtc_of_ofMillis {x : Double} {t : Instant} (h : ofMillis x = .ok t) :
    ∃ reading, t = ofUtc reading := by
  unfold ofMillis at h
  split at h
  · cases h
  · split at h
    · exact eq_ofUtc_of_ofEpoch h
    · cases h

/-- A store takes the timestamp of an instant if and only if a clock in UTC shows the instant. -/
theorem stored_toTimestamp_iff {t : Instant} :
    (∃ reading, t.toTimestamp.stored = .ok reading) ↔ t.toUtc?.isSome := by
  simp only [Timestamp.stored, toTimestamp]
  cases t.toUtc? <;> simp

end Instant

namespace Zone
variable {zone : Zone} {reading : Reading} {t : Instant}

theorem toUtc?_isSome_of_ofUtc (h : zone.ofUtc reading = .ok t) : t.toUtc?.isSome := by
  simp only [ofUtc] at h
  split at h
  · rename_i shown hshown
    cases h
    unfold Reading.shift? Reading.ofMicros? at hshown
    split at hshown
    · cases hshown
      have := reading.micros_lt
      rw [Instant.toUtc?, Reading.ofMicros?_isSome_iff, Instant.micros]
      dsimp only
      omega
    · cases hshown
  · cases h

theorem exists_ofUtc_of_attach (h : zone.attach reading = .ok t) :
    ∃ utc, zone.ofUtc utc = .ok t := by
  unfold attach at h
  cases hmoment : zone.momentOf reading.micros with
  | error fault =>
    rw [hmoment] at h
    cases h
  | ok moment =>
    rw [hmoment] at h
    change zone.onClock ⟨reading, zone.offsetAt moment⟩ = .ok t at h
    unfold onClock at h
    split at h
    · exact ⟨_, h⟩
    · cases h

theorem offset_of_ofUtc (h : zone.ofUtc reading = .ok t) : t.offset = zone.offsetAt reading.micros := by
  simp only [ofUtc] at h
  split at h
  · cases h
    rfl
  · cases h

end Zone

end GridQuery
