import GridQuery.Proofs.Calendar.DateText
import GridQuery.Proofs.Calendar.LocalClock
import GridQuery.Proofs.Coercion

/-!
# Midnight of a written date

Only a text of ten characters is taken for a date, and means midnight in UTC, wherever it is read.  The
shorter forms are taken for a reading of the local clock, at midnight.
-/

namespace GridQuery

open Iso

variable {date : Date} {s type : String} {zone : Zone}

/-- Ten characters mean midnight in UTC, and fewer mean midnight on the clock that they are read by. -/
theorem timestampOfText_of_spells (h : Spells date (trimmed s).toList) : timestampOfText s =
    .ok (if (trimmed s).length = 10 then (Instant.ofUtc (.midnight date)).toTimestamp
      else ⟨.midnight date, none⟩) := by
  have hempty : (trimmed s).isEmpty = false := by
    rw [Bool.eq_false_iff]
    intro hempty
    rw [String.isEmpty_iff.mp hempty] at h
    cases hfields : h.dateFields?_eq
  unfold timestampOfText
  dsimp only
  rw [hempty, if_neg Bool.false_ne_true]
  split
  · rw [Date.ofIso_of_spells h]
    rfl
  · rename_i hlength
    have hsame : (trimmed s).toList.flatMap (fun c => if c = 'Z' then "+00:00".toList else [c]) =
        (trimmed s).toList := by
      apply flatMap_eq_self
      intro c hc
      exact if_neg (h.forall_mem (p := fun c => c ≠ 'Z') (by decide) (by decide) (by decide) c hc)
    rw [hsame, String.ofList_toList, Timestamp.ofIso_of_spells h hlength]
    rfl

theorem toInstant_of_spells (h : Spells date (trimmed s).toList) : (Value.text s).toInstant zone =
    if (trimmed s).length = 10 then .ok (.ofUtc (.midnight date))
    else calendarResult (zone.attach (.midnight date)) := by
  rw [Value.toInstant, timestampOfText_of_spells h]
  split <;> rfl

def pacificStandard : Zone := ⟨⟨-28800000000, by decide⟩, none⟩

theorem attach_pacificStandard_ne (reading : Reading) :
    pacificStandard.attach reading ≠ .ok (.ofUtc reading) := by
  intro h
  obtain ⟨moment, -, hmicros⟩ := Zone.micros_of_attach h
  have hutc : (Instant.ofUtc reading).micros = reading.micros := Int.sub_zero _
  have hoffset : (pacificStandard.offsetAt moment).micros = -28800000000 := rfl
  omega

section Coercing
variable (htype : Family.ofType type = .date)
include htype

theorem coerce_time_iff {value : Value} (hnull : value.isNull = false) {t : Instant} :
    coerce zone type value = .ok (.usable (.time t.toTimestamp)) ↔ value.toInstant zone = .ok t := by
  rw [Value.coerce_of_date htype hnull, Except.ok.injEq, Coerced.ofExcept_eq_usable_iff]
  constructor
  · rintro ⟨⟨reading, offset⟩, hread, htime⟩
    cases htime
    exact hread
  · intro hread
    exact ⟨t, hread, rfl⟩

/-- A text that is a date alone means midnight in UTC wherever it is read, like the date itself, if and only
if it has ten characters.  Otherwise it means midnight on the local clock, which differs from midnight in UTC
by the offset of that clock. -/
theorem coerce_dateText_iff (h : Spells date (trimmed s).toList) :
    ((trimmed s).length = 10 → ∀ zone,
      coerce zone type (.text s) = .ok (.usable (.time (Instant.ofUtc (.midnight date)).toTimestamp)) ∧
      (Projections.of zone type (.text s)).instant = some (.ofUtc (.midnight date))) ∧
    ((trimmed s).length ≠ 10 → ∀ zone,
      coerce zone type (.text s) = coerce zone type (.time ⟨.midnight date, none⟩) ∧
      (Projections.of zone type (.text s)).instant =
        (Projections.of zone type (.time ⟨.midnight date, none⟩)).instant ∧
      (3 ≤ date.days → date.days + 2 ≤ 3652059 → ∃ t, (Value.text s).toInstant zone = .ok t) ∧
      ∀ t, (Value.text s).toInstant zone = .ok t → ∃ moment,
        zone.momentOf (Reading.midnight date).micros = .ok moment ∧
        t.micros = (Reading.midnight date).micros - (zone.offsetAt moment).micros) ∧
    ((∀ zone, coerce zone type (.text s) = coerce zone type (.date date)) ↔ (trimmed s).length = 10) := by
  have hutc (hlength : (trimmed s).length = 10) (zone : Zone) :
      (Value.text s).toInstant zone = .ok (.ofUtc (.midnight date)) := by
    rw [toInstant_of_spells h, if_pos hlength]
  have hlocal (hlength : (trimmed s).length ≠ 10) (zone : Zone) :
      (Value.text s).toInstant zone = calendarResult (zone.attach (.midnight date)) := by
    rw [toInstant_of_spells h, if_neg hlength]
  have hdate (zone : Zone) : coerce zone type (.date date) =
      .ok (.usable (.time (Instant.ofUtc (.midnight date)).toTimestamp)) :=
    (coerce_time_iff htype rfl).mpr rfl
  refine ⟨?_, ?_, ?_, ?_⟩
  · intro hlength zone
    refine ⟨(coerce_time_iff htype rfl).mpr (hutc hlength zone), ?_⟩
    rw [Projections.of, hutc hlength zone, htype]
    rfl
  · intro hlength zone
    refine ⟨?_, ?_, ?_, ?_⟩
    · rw [Value.coerce_of_date htype rfl, Value.coerce_of_date htype rfl, hlocal hlength zone]
      rfl
    · simp only [Projections.of, hlocal hlength zone]
      rfl
    · intro hlow hhigh
      have hmicros : (Reading.midnight date).micros = date.days * 86400000000 := rfl
      obtain ⟨t, ht, -⟩ := @Zone.exists_attach zone (.midnight date) (by omega) (by omega)
      exact ⟨t, (hlocal hlength zone).trans (calendarResult_eq_ok_iff.mpr ht)⟩
    · intro t ht
      rw [hlocal hlength zone, calendarResult_eq_ok_iff] at ht
      exact Zone.micros_of_attach ht
  · intro hsame
    by_contra hlength
    have hpacific := (coerce_time_iff htype rfl).mp ((hsame pacificStandard).trans (hdate pacificStandard))
    rw [hlocal hlength, calendarResult_eq_ok_iff] at hpacific
    exact attach_pacificStandard_ne _ hpacific
  · intro hlength zone
    rw [hdate zone]
    exact (coerce_time_iff htype rfl).mpr (hutc hlength zone)

end Coercing

def midJanuary : Date := ⟨738899, by decide⟩

/-- With dashes, and with whatever blanks around them, the date by month and day and the one by weekday mean
midnight in UTC on a clock in San Francisco. -/
theorem coerce_dateText_iff_midJanuary :
    coerce pacificStandard "date" (.text " 2024-01-15 ") =
      .ok (.usable (.time (Instant.ofUtc (.midnight midJanuary)).toTimestamp)) ∧
    coerce pacificStandard "datetime" (.text "2024-W03-1") =
      .ok (.usable (.time (Instant.ofUtc (.midnight midJanuary)).toTimestamp)) := by
  have hcalendar : Spells midJanuary (trimmed " 2024-01-15 ").toList := by
    have hchars : (trimmed " 2024-01-15 ").toList = fixedDigits 4 midJanuary.year ++ (dash true ++
        (fixedDigits 2 midJanuary.month ++ (dash true ++ fixedDigits 2 midJanuary.day))) := by decide +kernel
    rw [hchars]
    exact .calendar true
  have hweekday : Spells midJanuary (trimmed "2024-W03-1").toList := by
    have hchars : (trimmed "2024-W03-1").toList = fixedDigits 4 midJanuary.weekYear ++ (dash true ++
        ('W' :: (fixedDigits 2 midJanuary.week ++
          (dash true ++ fixedDigits 1 (midJanuary.weekday + 1))))) := by decide +kernel
    rw [hchars]
    exact .weekday true
  obtain ⟨hfirst, -⟩ := @coerce_dateText_iff _ _ "date" rfl hcalendar
  obtain ⟨hsecond, -⟩ := @coerce_dateText_iff _ _ "datetime" rfl hweekday
  exact ⟨(hfirst (by decide +kernel) pacificStandard).1, (hsecond (by decide +kernel) pacificStandard).1⟩

/-- Without dashes, the same date means eight in the morning of UTC on that clock. -/
theorem coerce_dateText_fails_midJanuary :
    Spells midJanuary (trimmed "20240115").toList ∧
    coerce pacificStandard "date" (.text "20240115") =
      .ok (.usable (.time ⟨.midnight midJanuary, some ⟨-28800000000, by decide⟩⟩)) ∧
    coerce pacificStandard "date" (.date midJanuary) =
      .ok (.usable (.time ⟨.midnight midJanuary, some .utc⟩)) ∧
    (Projections.of pacificStandard "date" (.text "20240115")).instant ≠
      (Projections.of .utc "date" (.text "20240115")).instant := by
  have hchars : (trimmed "20240115").toList = fixedDigits 4 midJanuary.year ++ (dash false ++
      (fixedDigits 2 midJanuary.month ++ (dash false ++ fixedDigits 2 midJanuary.day))) := by decide +kernel
  have hspells : Spells midJanuary (trimmed "20240115").toList := by
    rw [hchars]
    exact .calendar false
  have hlength : (trimmed "20240115").length ≠ 10 := by decide +kernel
  have hread (zone : Zone) := @toInstant_of_spells midJanuary "20240115" zone hspells
  simp only [if_neg hlength] at hread
  have hpacific : (Value.text "20240115").toInstant pacificStandard =
      .ok ⟨.midnight midJanuary, ⟨-28800000000, by decide⟩⟩ := (hread pacificStandard).trans rfl
  have hutc : (Value.text "20240115").toInstant .utc = .ok ⟨.midnight midJanuary, .utc⟩ :=
    (hread .utc).trans rfl
  refine ⟨hspells, ?_, rfl, ?_⟩
  · rw [Value.coerce_of_date rfl rfl, hpacific]
    rfl
  · have hstored (zone : Zone) : (Projections.of zone "date" (.text "20240115")).instant =
        ((Value.text "20240115").toInstant zone).toOption := rfl
    rw [hstored, hstored, hpacific, hutc]
    decide

end GridQuery
