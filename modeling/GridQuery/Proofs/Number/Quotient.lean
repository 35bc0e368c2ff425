import GridQuery.Page
import GridQuery.Proofs.Number.WholeSizes
import Mathlib

/-!
# Quotients rounded up

The whole numbers up to `2 ^ 53` are sizes, and rounding passes none of them that the quotient does not
exceed.  So the number of pages is never more than it takes while it is one of them.
-/

namespace GridQuery

namespace Magnitude

def ceiling (m : Magnitude) : Nat := if m.fraction == 0 then m.whole else m.whole + 1

theorem ceiling_le_iff {m : Magnitude} {n : Nat} : m.ceiling ≤ n ↔ m.units ≤ n * unitsPerOne := by
  have hpos := unitsPerOne_pos
  unfold ceiling fraction whole
  generalize unitsPerOne = one at hpos ⊢
  have hsplit := Nat.div_add_mod' m.units one
  by_cases hwhole : m.units % one = 0
  · rw [if_pos (by simpa using hwhole), ← Nat.mul_le_mul_right_iff hpos]
    omega
  · rw [if_neg (by simpa using hwhole), Nat.succ_le_iff, Nat.div_lt_iff_lt_mul hpos]
    have hne : m.units ≠ n * one := by
      rintro heq
      rw [heq, Nat.mul_mod_left] at hwhole
      contradiction
    omega

theorem rank_ofRatio {num den : Nat} (h : nearestRank num den < topRank) :
    (ofRatio num den).rank = nearestRank num den := Nat.min_eq_left (Nat.le_of_lt h)

theorem isFinite_ofRatio {num den : Nat} :
    (ofRatio num den).isFinite = true ↔ nearestRank num den < topRank := by
  rw [isFinite, decide_eq_true_eq, ofRatio]
  exact min_lt_iff.trans (or_iff_left (Nat.lt_irrefl topRank))

end Magnitude

open Magnitude
variable {total size pages : Nat}

theorem ceil?_eq_ceiling {m : Magnitude} (hfinite : m.isFinite = true) :
    (Double.signed false m).ceil? = some (m.ceiling : Int) := by
  rw [Double.ceil?, hfinite, Magnitude.ceiling]
  cases m.fraction == 0 <;> rfl

section Positive
variable (hsize : 0 < size)
include hsize

omit hsize in
theorem ofRatio_natCast : Double.ofRatio total size = .signed false (Magnitude.ofRatio total size) := by
  have hpositive : decide ((total : Int) < 0) = false := by simp
  rw [Double.ofRatio, hpositive, Int.natAbs_natCast]

theorem ceilQuotient_of_finite (hfinite : (Magnitude.ofRatio total size).isFinite = true) :
    ceilQuotient total size = .ok ((Magnitude.ofRatio total size).ceiling : Int) := by
  rw [ceilQuotient, if_neg (by omega), Int.sign_eq_one_of_pos (by omega), Int.mul_one, Int.natAbs_natCast,
    ofRatio_natCast, ceil?_eq_ceiling hfinite]

theorem ceilQuotient_of_infinite (hinfinite : ¬(Magnitude.ofRatio total size).isFinite = true) :
    ceilQuotient total size = .error .tooLarge := by
  rw [ceilQuotient, if_neg (by omega), Int.sign_eq_one_of_pos (by omega), Int.mul_one, Int.natAbs_natCast,
    ofRatio_natCast, Double.ceil?, if_pos (by simpa using hinfinite)]

/-- A number of pages is told if the quotient is rounded to a size beyond the page before, and not beyond
this one. -/
theorem ceilQuotient_eq_succ_iff : ceilQuotient total size = .ok ((pages + 1 : Nat) : Int) ↔
    nearestRank total size < topRank ∧ pages * unitsPerOne < unitsAt (nearestRank total size) ∧
      unitsAt (nearestRank total size) ≤ (pages + 1) * unitsPerOne := by
  by_cases hfinite : (Magnitude.ofRatio total size).isFinite = true
  · have hrank := isFinite_ofRatio.mp hfinite
    rw [ceilQuotient_of_finite hsize hfinite, Except.ok.injEq, Int.ofNat_inj, and_iff_right hrank,
      ← rank_ofRatio hrank, ← units, ← Nat.not_le, ← ceiling_le_iff, ← ceiling_le_iff]
    omega
  · rw [ceilQuotient_of_infinite hsize hfinite]
    exact iff_of_false nofun fun h => hfinite (isFinite_ofRatio.mpr h.1)

theorem nearestRank_le_of_pages {rank : Nat} (hunits : unitsAt rank = pages * unitsPerOne)
    (h : total ≤ pages * size) : nearestRank total size ≤ rank := by
  apply nearestRank_le hsize
  rw [hunits, Nat.mul_right_comm]
  exact Nat.mul_le_mul_right _ h

theorem ceilQuotient_le (hpages : pages < 2 ^ 53) (h : total ≤ pages * size) :
    ∃ n : Nat, ceilQuotient total size = .ok (n : Int) ∧ n ≤ pages := by
  obtain ⟨rank, htop, hunits⟩ := (isWhole_of_le (Nat.le_of_lt hpages)).exists_rank
  have hrank := nearestRank_le_of_pages hsize hunits h
  have hfinite := isFinite_ofRatio.mpr (Nat.lt_of_le_of_lt hrank htop)
  refine ⟨_, ceilQuotient_of_finite hsize hfinite, ceiling_le_iff.mpr ?_⟩
  rw [units, rank_ofRatio (isFinite_ofRatio.mp hfinite), ← hunits]
  exact unitsAt_le hrank

end Positive

end GridQuery
