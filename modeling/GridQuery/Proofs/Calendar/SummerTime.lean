import GridQuery.Proofs.Calendar.Civil
import GridQuery.Proofs.Calendar.LocalClock

/-!
# Summer time

Within a year, the clock of a zone is changed where summer time starts and where it stops, and nowhere else.
-/

namespace GridQuery

theorem yearOfDay_eq {days year : Nat} (hlow : Date.daysBeforeYear year ≤ days)
    (hhigh : days < Date.daysBeforeYear (year + 1)) : yearOfDay days = year := by
  have hyear : Date.yearOf days = year := Date.yearOf_eq_iff.mpr ⟨hlow, hhigh⟩
  have hcycle := Date.yearOf_add_cycle days
  unfold yearOfDay
  rw [show ((days : Int) + 146097).toNat = days + 146097 by omega]
  omega

namespace Summer

def startIn (summer : Summer) (standard : Offset) (year : Nat) : Int :=
  summer.start.reading year - standard.micros

def stopIn (summer : Summer) (year : Nat) : Int :=
  summer.stop.reading year - summer.offset.micros

theorem inForce_iff {summer : Summer} {standard : Offset} {year : Nat} {moment : Int}
    (hlow : (Date.daysBeforeYear year : Int) * 86400000000 ≤ moment)
    (hhigh : moment < (Date.daysBeforeYear (year + 1) : Int) * 86400000000) :
    summer.inForce standard moment = true ↔
      if summer.stopIn year < summer.startIn standard year
      then moment < summer.stopIn year ∨ summer.startIn standard year ≤ moment
      else summer.startIn standard year ≤ moment ∧ moment < summer.stopIn year := by
  obtain ⟨days, hdays⟩ : ∃ days : Nat, (days : Int) = Int.fdiv moment 86400000000 := by
    refine ⟨(Int.fdiv moment 86400000000).toNat, Int.toNat_of_nonneg ?_⟩
    rw [Int.fdiv_eq_ediv_of_nonneg _ (by decide)]
    omega
  have hquotient : (days : Int) = moment / 86400000000 :=
    hdays.trans (Int.fdiv_eq_ediv_of_nonneg _ (by decide))
  have hcurrent : yearOfDay (Int.fdiv moment 86400000000) = year := by
    rw [← hdays]
    exact yearOfDay_eq (by omega) (by omega)
  unfold inForce startIn stopIn
  rw [hcurrent]
  dsimp only
  split
  · rw [Bool.or_eq_true, decide_eq_true_iff, decide_eq_true_iff]
  · rw [Bool.and_eq_true, decide_eq_true_iff, decide_eq_true_iff]

end Summer

namespace Zone
variable {zone : Zone} {first last : Int}

/-- A clock that has one offset throughout may as well be said to be changed to it at any moment. -/
theorem changesOnce_of_const {offset : Offset} (h : ∀ moment, zone.offsetAt moment = offset)
    (first last change : Int) : zone.ChangesOnce first last change offset offset where
  offsetAt_eq moment _ _ := by
    rw [h, ite_self]
  back_le := by omega

section Rules
variable {summer : Summer} {year : Nat} (hsummer : zone.summer = some summer)
  (hlow : (Date.daysBeforeYear year : Int) * 86400000000 ≤ first)
  (hhigh : last < (Date.daysBeforeYear (year + 1) : Int) * 86400000000)
include hsummer hlow hhigh

/-- Around the start of summer time and away from its end, the clock is changed once. -/
theorem changesOnce_of_start
    (haway : summer.startIn zone.standard year ≤ summer.stopIn year ∧ last < summer.stopIn year ∨
      summer.stopIn year < summer.startIn zone.standard year ∧ summer.stopIn year ≤ first)
    (hback : zone.standard.micros - summer.offset.micros ≤ 86400000000) :
    zone.ChangesOnce first last (summer.startIn zone.standard year) zone.standard summer.offset where
  offsetAt_eq moment hfirst hlast := by
    have hforce : summer.inForce zone.standard moment = true ↔
        ¬moment < summer.startIn zone.standard year := by
      rw [@Summer.inForce_iff summer zone.standard year moment (by omega) (by omega)]
      split <;> omega
    unfold offsetAt
    rw [hsummer]
    simp only [hforce, ite_not]
  back_le := hback

theorem changesOnce_of_stop
    (haway : summer.startIn zone.standard year ≤ summer.stopIn year ∧
        summer.startIn zone.standard year ≤ first ∨
      summer.stopIn year < summer.startIn zone.standard year ∧
        last < summer.startIn zone.standard year)
    (hback : summer.offset.micros - zone.standard.micros ≤ 86400000000) :
    zone.ChangesOnce first last (summer.stopIn year) summer.offset zone.standard where
  offsetAt_eq moment hfirst hlast := by
    have hforce : summer.inForce zone.standard moment = true ↔ moment < summer.stopIn year := by
      rw [@Summer.inForce_iff summer zone.standard year moment (by omega) (by omega)]
      split <;> omega
    unfold offsetAt
    rw [hsummer]
    simp only [hforce]
  back_le := hback

end Rules

end Zone

end GridQuery
