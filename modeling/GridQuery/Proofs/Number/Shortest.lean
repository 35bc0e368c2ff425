import GridQuery.Number.Decimal
import GridQuery.Proofs.Number.Order
import Mathlib

/-!
# The digits that name a size

A ratio names the same size in whatever terms it is given, and so does a decimal with more zeros behind
it.  A ratio that is a size exactly names that size, and so do the shortest digits found for it.
-/

namespace GridQuery

namespace Magnitude

theorem log2_mul_two_pow {n : Nat} (hn : n ≠ 0) (k : Nat) : (n * 2 ^ k).log2 = n.log2 + k := by
  rw [Nat.log2_eq_iff (Nat.mul_ne_zero hn (Nat.two_pow_pos k).ne')]
  constructor
  · rw [Nat.pow_add]
    exact Nat.mul_le_mul_right _ (Nat.log2_self_le hn)
  · rw [Nat.add_right_comm, Nat.pow_add]
    exact Nat.mul_lt_mul_of_pos_right Nat.lt_log2_self (Nat.two_pow_pos k)

theorem log2_scaled {step binade : Nat} (hle : 2 ^ 52 ≤ step) (hlt : step < 2 ^ 53) :
    (step * 2 ^ binade).log2 = binade + 52 := by
  have hne : step ≠ 0 := by omega
  rw [log2_mul_two_pow hne, Nat.add_comm, (Nat.log2_eq_iff hne).mpr ⟨hle, hlt⟩]

theorem exists_binade {rank : Nat} (h : 0x10000000000000 ≤ rank) : ∃ binade step,
    step < 0x10000000000000 ∧ rank = (binade + 1) * 0x10000000000000 + step :=
  ⟨rank / 0x10000000000000 - 1, rank % 0x10000000000000, by omega, by omega⟩

theorem unitsAt_binade {binade step : Nat} (hstep : step < 0x10000000000000) :
    unitsAt ((binade + 1) * 0x10000000000000 + step) = (0x10000000000000 + step) * 2 ^ binade := by
  have hdiv : ((binade + 1) * 0x10000000000000 + step) / 0x10000000000000 - 1 = binade := by omega
  have hmod : ((binade + 1) * 0x10000000000000 + step) % 0x10000000000000 = step := by omega
  rw [unitsAt, if_neg (by omega), hdiv, hmod, Nat.pow_eq]

theorem floorRank_unitsAt (rank : Nat) : floorRank (unitsAt rank) = rank := by
  by_cases hsmall : rank < 0x10000000000000
  · rw [unitsAt, if_pos hsmall, floorRank, if_pos (by omega)]
  · obtain ⟨binade, step, hstep, rfl⟩ := exists_binade (Nat.le_of_not_lt hsmall)
    rw [unitsAt_binade hstep, floorRank]
    cases binade with
    | zero =>
      rw [Nat.pow_zero, Nat.mul_one, if_pos (by omega), Nat.zero_add, Nat.one_mul]
    | succ binade =>
      have hlarge : ¬ (0x10000000000000 + step) * 2 ^ (binade + 1) < 0x20000000000000 := by
        have hpos : 0 < 2 ^ binade := Nat.two_pow_pos binade
        have hle := Nat.mul_le_mul (Nat.le_add_right 0x10000000000000 step) hpos
        rw [Nat.pow_succ, ← Nat.mul_assoc]
        omega
      simp only [if_neg hlarge, log2_scaled (show 2 ^ 52 ≤ 0x10000000000000 + step by omega)
        (show 0x10000000000000 + step < 2 ^ 53 by omega), Nat.add_sub_cancel,
        Nat.shiftRight_eq_div_pow, Nat.mul_div_cancel _ (Nat.two_pow_pos (binade + 1))]
      omega

variable {num den : Nat}

theorem nearestRank_mul {c : Nat} (hc : 0 < c) :
    nearestRank (c * num) (c * den) = nearestRank num den := by
  unfold nearestRank
  simp only [Nat.mul_assoc, Nat.mul_div_mul_left _ _ hc, Nat.mul_left_comm 2 c,
    Nat.mul_lt_mul_left hc]

theorem ofRatio_mul {c : Nat} (hc : 0 < c) : ofRatio (c * num) (c * den) = ofRatio num den := by
  simp only [ofRatio, nearestRank_mul hc]

theorem ofRatio_eq_of_units {m : Magnitude} (hden : 0 < den)
    (h : num * unitsPerOne = m.units * den) : ofRatio num den = m := by
  have hrank : nearestRank num den = m.rank := by
    have hlow : floorRank (m.units * den / den) = m.rank := by
      rw [Nat.mul_div_cancel _ hden]
      exact floorRank_unitsAt _
    have hmiddle : 2 * (m.units * den) < den * (unitsAt m.rank + unitsAt (m.rank + 1)) := by
      have hlt := Nat.mul_lt_mul_of_pos_left (unitsAt_lt_succ m.rank) hden
      have hunits : m.units * den = den * unitsAt m.rank := Nat.mul_comm _ _
      rw [Nat.mul_add]
      omega
    simp only [nearestRank, h, hlow]
    rw [if_pos hmiddle]
  have hle := m.rank_le
  obtain ⟨rank, hrank_le⟩ := m
  simp only [ofRatio, hrank, Magnitude.mk.injEq]
  exact Nat.min_eq_left hle

theorem unitsAt_topRank : ∃ e, e = 2098 ∧ unitsAt topRank = 2 ^ e := by
  obtain ⟨binade, hbinade⟩ : ∃ binade, binade = 2046 := ⟨_, rfl⟩
  have htop : topRank = (binade + 1) * 0x10000000000000 + 0 := by
    rw [hbinade]
    rfl
  have hsteps : 0x10000000000000 = 2 ^ 52 := by decide
  refine ⟨52 + binade, by omega, ?_⟩
  rw [htop, unitsAt_binade (by decide), Nat.add_zero, hsteps, Nat.pow_add]

theorem units_lt {m : Magnitude} {e : Nat} (h : m.isFinite) (he : 52 + 2046 ≤ e) :
    m.units < 2 ^ e := by
  obtain ⟨top, htop, hunits⟩ := unitsAt_topRank
  calc m.units < unitsAt topRank := unitsAt_lt (of_decide_eq_true h)
    _ = 2 ^ top := hunits
    _ ≤ 2 ^ e := Nat.pow_le_pow_right (by decide) (by omega)

end Magnitude

namespace Decimal
variable {digits : Nat} {exponent : Int}

theorem width_mul_ten (h : digits ≠ 0) : width (digits * 10) = width digits + 1 := by
  rw [width, Nat.toDigits_of_base_le (by decide) (by omega), Nat.mul_div_cancel _ (by decide),
    List.length_append, width, List.length_singleton]

theorem nearest_mul_ten (digits : Nat) (exponent : Int) :
    nearest ⟨digits * 10, exponent⟩ = nearest ⟨digits, exponent + 1⟩ := by
  by_cases hzero : digits = 0
  · simp [nearest, hzero]
  · have hratio : Magnitude.ofRatio (digits * 10 * 10 ^ exponent.toNat) (10 ^ (-exponent).toNat) =
        Magnitude.ofRatio (digits * 10 ^ (exponent + 1).toNat) (10 ^ (-(exponent + 1)).toNat) := by
      by_cases hexponent : 0 ≤ exponent
      · have hup : (exponent + 1).toNat = exponent.toNat + 1 := by omega
        have hdown : (-exponent).toNat = (-(exponent + 1)).toNat := by omega
        rw [hup, hdown, Nat.pow_succ', Nat.mul_assoc]
      · have hup : (exponent + 1).toNat = exponent.toNat := by omega
        have hdown : (-exponent).toNat = (-(exponent + 1)).toNat + 1 := by omega
        rw [hup, hdown, Nat.pow_succ', Nat.mul_comm digits 10, Nat.mul_assoc,
          Magnitude.ofRatio_mul (by decide)]
    have hlead : ((width digits + 1 : Nat) : Int) + exponent = width digits + (exponent + 1) := by
      omega
    have hne : digits * 10 ≠ 0 := by omega
    simp only [nearest, hne, hzero, if_false, width_mul_ten hzero, hlead, Nat.pow_eq, hratio]

theorem nearest_mul_pow (digits zeros : Nat) (exponent : Int) :
    nearest ⟨digits * 10 ^ zeros, exponent⟩ = nearest ⟨digits, exponent + zeros⟩ := by
  induction zeros generalizing digits exponent with
  | zero => simp
  | succ zeros ih =>
    rw [Nat.pow_succ, ← Nat.mul_assoc, nearest_mul_ten, ih]
    congr 2
    omega

theorem nearest_trim (d : Decimal) : d.trim.nearest = d.nearest := by
  induction d using trim.induct with
  | case1 digits exponent h ih =>
    have hdigits : digits / 10 * 10 = digits := by omega
    rw [trim, dif_pos h, ih, ← nearest_mul_ten, hdigits]
  | case2 digits exponent h => rw [trim, dif_neg h]

variable {m : Magnitude}

theorem mul_five_pow_lt {units b e : Nat} (h : units < 2 ^ (3 * b + e)) :
    units * 5 ^ e < 10 ^ (b + e) := by
  have hle : 2 ^ (3 * b) ≤ 10 ^ b := by
    rw [Nat.pow_mul]
    exact Nat.pow_le_pow_left (by decide) b
  calc units * 5 ^ e
      < 2 ^ (3 * b + e) * 5 ^ e := Nat.mul_lt_mul_of_pos_right h (Nat.pow_pos (by decide))
    _ = 2 ^ (3 * b) * 10 ^ e := by rw [Nat.pow_add, Nat.mul_assoc, ← Nat.mul_pow]
    _ ≤ 10 ^ b * 10 ^ e := Nat.mul_le_mul_right _ hle
    _ = 10 ^ (b + e) := (Nat.pow_add 10 b e).symm

theorem ten_pow_le (c : Nat) : 10 ^ (2 * c) ≤ 5 ^ (3 * c) := by
  rw [Nat.pow_mul, Nat.pow_mul]
  exact Nat.pow_le_pow_left (by decide) c

theorem nearest_units {c e : Nat} (hc : c < 400) (he : e = 3 * c)
    (hone : Magnitude.unitsPerOne = 2 ^ e) (hpos : 0 < m.units) (hlt : m.units < 2 ^ (3 * 400 + e)) :
    nearest ⟨m.units * 5 ^ e, -(e : Int)⟩ = m := by
  have hdigits : 0 < m.units * 5 ^ e := Nat.mul_pos hpos (Nat.pow_pos (by decide))
  have hwidth : width (m.units * 5 ^ e) ≤ 400 + e := by
    exact (Nat.length_toDigits_le_iff (by decide) (by omega)).mpr (mul_five_pow_lt hlt)
  have hlong : 2 * c ≤ width (m.units * 5 ^ e) := by
    rcases Nat.eq_zero_or_pos (2 * c) with hzero | hzero
    · omega
    · by_contra hshort
      have hlt := (@Nat.length_toDigits_le_iff 10 (m.units * 5 ^ e) (2 * c) (by decide) hzero).mp
        (by rw [width] at hshort; omega)
      have hle : 10 ^ (2 * c) ≤ m.units * 5 ^ e := by
        rw [he]
        exact Nat.le_trans (ten_pow_le c) (Nat.le_mul_of_pos_left _ hpos)
      omega
  have hratio : Magnitude.ofRatio (m.units * 5 ^ e * 10 ^ 0) (10 ^ e) = m := by
    apply Magnitude.ofRatio_eq_of_units (Nat.pow_pos (by decide))
    rw [Nat.pow_zero, Nat.mul_one, Nat.mul_assoc, hone, ← Nat.mul_pow]
  have hup : (-(e : Int)).toNat = 0 := by omega
  have hdown : (- -(e : Int)).toNat = e := by omega
  unfold nearest
  simp only [Nat.pow_eq, hup, hdown, hratio]
  rw [if_neg (by omega), if_neg (by omega), if_neg (by omega)]

theorem nearest_exact (hpos : 0 < m.units) (hfinite : m.isFinite) : (exact m).nearest = m := by
  have hone : Magnitude.unitsPerOne = 2 ^ 1074 := Nat.pow_eq
  have hexact := nearest_units (show 358 < 400 by decide) rfl hone hpos
    (Magnitude.units_lt hfinite (by decide))
  rwa [← Nat.pow_eq] at hexact

theorem nearest_shortest (hpos : 0 < m.units) (hfinite : m.isFinite) : (shortest m).nearest = m := by
  unfold shortest
  rw [nearest_trim]
  cases hfound : (List.range 17).findSome? fun count => (candidates m (count + 1)).head? with
  | none => exact nearest_exact hpos hfinite
  | some d =>
    obtain ⟨count, _, hhead⟩ := List.exists_of_findSome?_eq_some hfound
    exact of_decide_eq_true (List.mem_filter.mp (List.mem_of_head? hhead)).2

end Decimal

end GridQuery
