import GridQuery.Proofs.Number.Rounding
import Mathlib

/-!
# Whole numbers among the sizes

A whole number is a size if it has no more than 53 binary digits before its last zeros, and is below
`2 ^ 1024`.  So all whole numbers up to `2 ^ 53` are sizes, and all sizes from there on are even numbers.
-/

namespace GridQuery.Magnitude
variable {n m rank : Nat}

/-- The whole numbers that are sizes. -/
def IsWhole (n : Nat) : Prop := 2 ^ (n.log2 - 52) ∣ n ∧ n.log2 < 1024

theorem unitsPerOne_eq_two_pow : ∃ e, e = 1022 ∧ unitsPerOne = 2 ^ 52 * 2 ^ e := by
  obtain ⟨e, he, hone⟩ : ∃ e, e = 1074 ∧ unitsPerOne = 2 ^ e := ⟨1074, rfl, Nat.pow_eq⟩
  exact ⟨e - 52, by omega, by rw [hone, ← Nat.pow_add, Nat.add_sub_cancel' (by omega)]⟩

theorem unitsPerOne_pos : 0 < unitsPerOne := by
  obtain ⟨e, -, hone⟩ := unitsPerOne_eq_two_pow
  rw [hone]
  exact Nat.mul_pos (Nat.two_pow_pos 52) (Nat.two_pow_pos e)

/-- The first 53 binary digits of a number, with zeros behind them if it has less. -/
theorem exists_digits_iff : (∃ m, m * 2 ^ n.log2 = n * 2 ^ 52) ↔ 2 ^ (n.log2 - 52) ∣ n := by
  rcases Nat.le_total n.log2 52 with hle | hle
  · refine iff_of_true ⟨n * 2 ^ (52 - n.log2), ?_⟩ ?_
    · rw [Nat.mul_assoc, ← Nat.pow_add, Nat.sub_add_cancel hle]
    · rw [Nat.sub_eq_zero_of_le hle]
      exact Nat.one_dvd n
  · have hpow : 2 ^ n.log2 = 2 ^ (n.log2 - 52) * 2 ^ 52 := by rw [← Nat.pow_add, Nat.sub_add_cancel hle]
    constructor
    · rintro ⟨m, hm⟩
      rw [hpow, ← Nat.mul_assoc] at hm
      exact ⟨m, by rw [Nat.mul_comm, Nat.eq_of_mul_eq_mul_right (Nat.two_pow_pos 52) hm]⟩
    · rintro ⟨m, hm⟩
      refine ⟨m, ?_⟩
      conv_rhs => rw [hm]
      rw [hpow]
      ring

theorem digits_bounds (hn : n ≠ 0) (hm : m * 2 ^ n.log2 = n * 2 ^ 52) :
    0x10000000000000 ≤ m ∧ m < 0x20000000000000 := by
  have hpos := Nat.two_pow_pos n.log2
  constructor
  · apply Nat.le_of_mul_le_mul_right _ hpos
    rw [hm, Nat.mul_comm]
    exact Nat.mul_le_mul_right _ (Nat.log2_self_le hn)
  · apply Nat.lt_of_mul_lt_mul_right (a := 2 ^ n.log2)
    have hlt : n < 2 ^ n.log2 * 2 := Nat.lt_log2_self
    rw [hm]
    omega

theorem digits_odd_iff (hlog : n.log2 ≤ 52) :
    n * 2 ^ (52 - n.log2) % 2 = 1 ↔ n.log2 = 52 ∧ n % 2 = 1 := by
  obtain ⟨spare, hspare⟩ := Nat.exists_eq_add_of_le hlog
  rw [show 52 - n.log2 = spare by omega]
  cases spare with
  | zero => simpa using fun _ => hspare.symm
  | succ spare =>
    rw [Nat.pow_succ, ← Nat.mul_assoc]
    omega

theorem exists_rank (hn : n ≠ 0) (hlog : n.log2 < 1024) (hm : m * 2 ^ n.log2 = n * 2 ^ 52) :
    ∃ rank < topRank, unitsAt rank = n * unitsPerOne ∧
      unitsAt (rank + 1) * 2 ^ 52 = (n * 2 ^ 52 + 2 ^ n.log2) * unitsPerOne ∧ rank % 2 = m % 2 := by
  obtain ⟨hlow, hhigh⟩ := digits_bounds hn hm
  obtain ⟨step, rfl⟩ := Nat.exists_eq_add_of_le hlow
  obtain ⟨e, he, hone⟩ := unitsPerOne_eq_two_pow
  refine ⟨(e + n.log2 + 1) * 0x10000000000000 + step, by rw [topRank]; omega, ?_, ?_, by omega⟩
  · rw [unitsAt_binade (by omega), hone, Nat.pow_add, Nat.mul_comm (2 ^ e), ← Nat.mul_assoc, hm, Nat.mul_assoc]
  · rw [unitsAt_binade_succ (by omega), hone, ← hm, Nat.pow_add]
    ring

theorem IsWhole.exists_rank (whole : IsWhole n) : ∃ rank < topRank, unitsAt rank = n * unitsPerOne := by
  by_cases hn : n = 0
  · exact ⟨0, by decide, by rw [hn, Nat.zero_mul]; rfl⟩
  · obtain ⟨m, hm⟩ := exists_digits_iff.mpr whole.1
    obtain ⟨rank, hfinite, hunits, -⟩ := Magnitude.exists_rank hn whole.2 hm
    exact ⟨rank, hfinite, hunits⟩

theorem isWhole_of_le (h : n ≤ 2 ^ 53) : IsWhole n := by
  rcases Nat.lt_or_eq_of_le h with hlt | rfl
  · have hlog : n.log2 ≤ 52 := by
      by_cases hn : n = 0
      · rw [hn]
        decide
      · exact Nat.le_of_lt_succ ((Nat.log2_lt hn).mpr hlt)
    rw [IsWhole, Nat.sub_eq_zero_of_le hlog]
    exact ⟨Nat.one_dvd n, by omega⟩
  · rw [IsWhole]
    decide

theorem exists_binade_of_le (h : 0x20000000000000 ≤ unitsAt rank) : ∃ binade step,
    step < 0x10000000000000 ∧ rank = (binade + 1) * 0x10000000000000 + step ∧
      unitsAt rank = (0x10000000000000 + step) * 2 ^ binade := by
  have hlarge : 0x10000000000000 ≤ rank := by
    by_contra hsmall
    rw [unitsAt_of_small (by omega)] at h
    omega
  obtain ⟨binade, step, hstep, rfl⟩ := exists_binade hlarge
  exact ⟨binade, step, hstep, rfl, unitsAt_binade hstep⟩

theorem le_unitsPerOne : 0x20000000000000 ≤ unitsPerOne := by
  obtain ⟨e, he, hone⟩ := unitsPerOne_eq_two_pow
  have hpow : 2 ≤ 2 ^ e := Nat.le_self_pow (show e ≠ 0 by omega) 2
  omega

theorem isWhole_of_unitsAt (hfinite : rank < topRank) (hunits : unitsAt rank = n * unitsPerOne) :
    IsWhole n := by
  by_cases hn : n = 0
  · exact isWhole_of_le (by omega)
  · have hlarge : 0x20000000000000 ≤ unitsAt rank := by
      rw [hunits]
      exact Nat.le_trans le_unitsPerOne (Nat.le_mul_of_pos_left _ (Nat.pos_of_ne_zero hn))
    obtain ⟨binade, step, hstep, rfl, hbinade⟩ := exists_binade_of_le hlarge
    obtain ⟨e, he, hone⟩ := unitsPerOne_eq_two_pow
    rw [hone, ← Nat.pow_add] at hunits
    have hlog : binade = n.log2 + e := by
      have hsame := congrArg Nat.log2 (hbinade.symm.trans hunits)
      rw [log2_scaled (by omega) (by omega), log2_mul_two_pow hn] at hsame
      omega
    refine ⟨exists_digits_iff.mp ⟨0x10000000000000 + step, ?_⟩, by rw [topRank] at hfinite; omega⟩
    apply Nat.eq_of_mul_eq_mul_right (Nat.two_pow_pos e)
    rw [Nat.mul_assoc, ← Nat.pow_add, ← hlog, ← hbinade, hunits, Nat.pow_add, Nat.mul_assoc]

theorem two_mul_dvd_unitsAt (h : 2 ^ 53 * unitsPerOne ≤ unitsAt rank) : 2 * unitsPerOne ∣ unitsAt rank := by
  have hlarge : 0x20000000000000 ≤ unitsAt rank :=
    Nat.le_trans le_unitsPerOne (by omega)
  obtain ⟨binade, step, hstep, rfl, hbinade⟩ := exists_binade_of_le hlarge
  obtain ⟨e, -, hone⟩ := unitsPerOne_eq_two_pow
  have hless : 52 + e < binade := by
    rw [← Nat.pow_lt_pow_iff_right (show 1 < 2 by decide), Nat.pow_add, ← hone]
    apply Nat.lt_of_mul_lt_mul_left (a := 2 ^ 53)
    rw [hbinade] at h
    exact Nat.lt_of_le_of_lt h (Nat.mul_lt_mul_of_pos_right (by omega) (Nat.two_pow_pos binade))
  obtain ⟨more, rfl⟩ := Nat.exists_eq_add_of_lt hless
  refine ⟨(0x10000000000000 + step) * 2 ^ more, ?_⟩
  rw [hbinade, hone]
  simp only [Nat.pow_add]
  ring

theorem unitsAt_add_two_le {a b : Nat} (hlarge : 2 ^ 53 * unitsPerOne ≤ unitsAt a) (h : a < b) :
    unitsAt a + 2 * unitsPerOne ≤ unitsAt b := by
  have hlt := unitsAt_lt h
  obtain ⟨low, hlow⟩ := two_mul_dvd_unitsAt hlarge
  obtain ⟨high, hhigh⟩ := two_mul_dvd_unitsAt (Nat.le_of_lt (Nat.lt_of_le_of_lt hlarge hlt))
  rw [hlow, hhigh] at hlt ⊢
  generalize 2 * unitsPerOne = two at hlt ⊢
  exact Nat.mul_le_mul_left two (Nat.lt_of_mul_lt_mul_left hlt)

end GridQuery.Magnitude
