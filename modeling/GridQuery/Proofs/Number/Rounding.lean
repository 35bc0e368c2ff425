import GridQuery.Proofs.Number.Shortest

/-!
# Rounding

A ratio lies between the size of its lower rank and the next one, and goes to the nearer of them.  So
rounding goes beyond a size exactly if the ratio lies beyond the middle between this size and the next,
or in the middle with the size of an odd rank.  All other facts of rounding come from this one.
-/

namespace GridQuery.Magnitude
variable {num den rank binade step units : Nat}

theorem unitsAt_le {a b : Nat} (h : a ≤ b) : unitsAt a ≤ unitsAt b :=
  Nat.not_lt.mp (mt unitsAt_lt_iff.mp (Nat.not_lt.mpr h))

theorem unitsAt_binade_succ (hstep : step < 0x10000000000000) :
    unitsAt ((binade + 1) * 0x10000000000000 + step + 1) =
      (0x10000000000000 + step + 1) * 2 ^ binade := by
  by_cases hlast : step + 1 < 0x10000000000000
  · rw [Nat.add_assoc, unitsAt_binade hlast, ← Nat.add_assoc]
  · have hnext : (binade + 1) * 0x10000000000000 + step + 1 =
        (binade + 1 + 1) * 0x10000000000000 + 0 := by omega
    have hdouble : 0x10000000000000 + step + 1 = 2 * 0x10000000000000 := by omega
    rw [hnext, unitsAt_binade (by decide), hdouble, Nat.pow_succ, Nat.add_zero, Nat.mul_comm (2 ^ binade),
      ← Nat.mul_assoc, Nat.mul_comm 0x10000000000000 2]

theorem unitsAt_of_small (h : rank ≤ 0x20000000000000) : unitsAt rank = rank := by
  by_cases hsmall : rank < 0x10000000000000
  · rw [unitsAt, if_pos hsmall]
  · obtain ⟨step, rfl⟩ := Nat.exists_eq_add_of_le (Nat.le_of_not_lt hsmall)
    rcases Nat.lt_or_eq_of_le (show step ≤ 0x10000000000000 by omega) with hstep | rfl
    · have hrank : 0x10000000000000 + step = (0 + 1) * 0x10000000000000 + step := by omega
      rw [hrank, unitsAt_binade hstep]
      omega
    · decide

/-- The rank of a number of units that has more than 53 bits tells the first 53 of them. -/
theorem floorRank_of_large (h : 0x20000000000000 ≤ units) : ∃ shift step, step < 0x10000000000000 ∧
    units / 2 ^ shift = 0x10000000000000 + step ∧
    floorRank units = (shift + 1) * 0x10000000000000 + step := by
  have hne : units ≠ 0 := by omega
  have hlog : 52 ≤ units.log2 := (Nat.le_log2 hne).mpr (by omega)
  obtain ⟨shift, hshift⟩ := Nat.exists_eq_add_of_le' hlog
  have hlow : 2 ^ 52 ≤ units / 2 ^ shift := by
    rw [Nat.le_div_iff_mul_le (Nat.two_pow_pos shift), ← Nat.pow_add, Nat.add_comm, ← hshift]
    exact Nat.log2_self_le hne
  have hhigh : units / 2 ^ shift < 2 ^ 53 := by
    rw [Nat.div_lt_iff_lt_mul (Nat.two_pow_pos shift), ← Nat.pow_add]
    have hlt := Nat.lt_log2_self (n := units)
    rwa [hshift, Nat.add_assoc, Nat.add_comm] at hlt
  refine ⟨shift, units / 2 ^ shift - 0x10000000000000, by omega, by omega, ?_⟩
  rw [floorRank, if_neg (by omega)]
  simp only [hshift, Nat.add_sub_cancel, Nat.shiftRight_eq_div_pow]
  omega

theorem unitsAt_floorRank_le (units : Nat) : unitsAt (floorRank units) ≤ units := by
  by_cases hsmall : units < 0x20000000000000
  · rw [floorRank, if_pos hsmall, unitsAt_of_small (by omega)]
  · obtain ⟨shift, step, hstep, hdiv, hrank⟩ := floorRank_of_large (Nat.le_of_not_lt hsmall)
    rw [hrank, unitsAt_binade hstep, ← hdiv]
    exact Nat.div_mul_le_self units (2 ^ shift)

theorem lt_unitsAt_floorRank_succ (units : Nat) : units < unitsAt (floorRank units + 1) := by
  by_cases hsmall : units < 0x20000000000000
  · rw [floorRank, if_pos hsmall, unitsAt_of_small (by omega)]
    omega
  · obtain ⟨shift, step, hstep, hdiv, hrank⟩ := floorRank_of_large (Nat.le_of_not_lt hsmall)
    rw [hrank, unitsAt_binade_succ hstep, ← hdiv]
    exact (Nat.div_lt_iff_lt_mul (Nat.two_pow_pos shift)).mp (Nat.lt_succ_self _)

/-- The rank below a ratio, between whose size and the next one the ratio lies. -/
def lowerRank (num den : Nat) : Nat := floorRank (num * unitsPerOne / den)

section Positive
variable (hden : 0 < den)
include hden

theorem lowerRank_spec : unitsAt (lowerRank num den) * den ≤ num * unitsPerOne ∧
    num * unitsPerOne < unitsAt (lowerRank num den + 1) * den :=
  ⟨(Nat.le_div_iff_mul_le hden).mp (unitsAt_floorRank_le _),
    (Nat.div_lt_iff_lt_mul hden).mp (lt_unitsAt_floorRank_succ _)⟩

omit hden in
theorem nearestRank_cases (num den : Nat) : nearestRank num den = lowerRank num den ∨
    nearestRank num den = lowerRank num den + 1 := by
  simp only [nearestRank, lowerRank]
  split
  · exact .inl rfl
  · split
    · exact .inr rfl
    · split
      · exact .inl rfl
      · exact .inr rfl

omit hden in
theorem lowerRank_lt_nearestRank_iff : lowerRank num den < nearestRank num den ↔
    den * (unitsAt (lowerRank num den) + unitsAt (lowerRank num den + 1)) < 2 * (num * unitsPerOne) ∨
      den * (unitsAt (lowerRank num den) + unitsAt (lowerRank num den + 1)) = 2 * (num * unitsPerOne) ∧
        lowerRank num den % 2 = 1 := by
  simp only [nearestRank, lowerRank]
  generalize den * (unitsAt _ + unitsAt _) = middle
  split
  · omega
  · split
    · omega
    · split <;> omega

/-- Rounding goes beyond a size if the ratio is beyond the middle between this size and the next one, or in
the middle and the rank of the size is odd. -/
theorem lt_nearestRank_iff : rank < nearestRank num den ↔
    den * (unitsAt rank + unitsAt (rank + 1)) < 2 * (num * unitsPerOne) ∨
      den * (unitsAt rank + unitsAt (rank + 1)) = 2 * (num * unitsPerOne) ∧ rank % 2 = 1 := by
  obtain ⟨hlow, hhigh⟩ := @lowerRank_spec num den hden
  have hcases := nearestRank_cases num den
  have hmono {a b : Nat} (h : a ≤ b) : unitsAt a * den ≤ unitsAt b * den :=
    Nat.mul_le_mul_right den (unitsAt_le h)
  have hstep : unitsAt rank * den < unitsAt (rank + 1) * den :=
    Nat.mul_lt_mul_of_pos_right (unitsAt_lt_succ rank) hden
  have hmiddle : den * (unitsAt rank + unitsAt (rank + 1)) =
      unitsAt rank * den + unitsAt (rank + 1) * den := by
    rw [Nat.mul_add, Nat.mul_comm den, Nat.mul_comm den]
  rcases Nat.lt_trichotomy rank (lowerRank num den) with hlt | rfl | hgt
  · have hbelow : unitsAt (rank + 1) * den ≤ unitsAt (lowerRank num den) * den := hmono hlt
    rw [hmiddle]
    omega
  · exact lowerRank_lt_nearestRank_iff
  · have habove : unitsAt (lowerRank num den + 1) * den ≤ unitsAt rank * den := hmono hgt
    rw [hmiddle]
    omega

theorem nearestRank_le (h : num * unitsPerOne ≤ unitsAt rank * den) : nearestRank num den ≤ rank := by
  rw [← Nat.not_lt, lt_nearestRank_iff hden, Nat.mul_add, Nat.mul_comm den, Nat.mul_comm den]
  have hstep := Nat.mul_lt_mul_of_pos_right (unitsAt_lt_succ rank) hden
  omega

end Positive

end GridQuery.Magnitude
