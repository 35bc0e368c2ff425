import GridQuery.Number.Double

/-!
# The order of doubles

Sizes grow with their ranks, so that doubles compare as the numbers of units that they stand for.  The
two zeros stand for one number.
-/

namespace GridQuery

namespace Magnitude

theorem unitsAt_lt_succ (rank : Nat) : unitsAt rank < unitsAt (rank + 1) := by
  simp only [unitsAt, Nat.pow_eq]
  have hdiv := Nat.div_add_mod rank (0x10000000000000)
  have hmod := Nat.mod_lt rank (show 0 < 0x10000000000000 by decide)
  by_cases hsmall : rank + 1 < 0x10000000000000
  · rw [if_pos (by omega), if_pos hsmall]
    omega
  by_cases hedge : rank + 1 = 0x10000000000000
  · rw [if_pos (by omega), if_neg hsmall, hedge]
    omega
  rw [if_neg (by omega), if_neg hsmall]
  by_cases hlast : rank % 0x10000000000000 + 1 < 0x10000000000000
  · have hsame : (rank + 1) / 0x10000000000000 = rank / 0x10000000000000 := by omega
    have hnext : (rank + 1) % 0x10000000000000 = rank % 0x10000000000000 + 1 := by omega
    rw [hsame, hnext]
    exact Nat.mul_lt_mul_of_pos_right (by omega) (Nat.two_pow_pos _)
  · have hbinade : (rank + 1) / 0x10000000000000 - 1 = rank / 0x10000000000000 - 1 + 1 := by omega
    have hfirst : (rank + 1) % 0x10000000000000 = 0 := by omega
    calc (0x10000000000000 + rank % 0x10000000000000) * 2 ^ (rank / 0x10000000000000 - 1)
        < 0x20000000000000 * 2 ^ (rank / 0x10000000000000 - 1) :=
          Nat.mul_lt_mul_of_pos_right (by omega) (Nat.two_pow_pos _)
      _ = (0x10000000000000 + (rank + 1) % 0x10000000000000) *
          2 ^ ((rank + 1) / 0x10000000000000 - 1) := by
          rw [hbinade, hfirst, Nat.pow_succ 2 (rank / 0x10000000000000 - 1)]
          generalize 2 ^ (rank / 0x10000000000000 - 1) = step
          omega

theorem unitsAt_lt {a b : Nat} (h : a < b) : unitsAt a < unitsAt b := by
  induction h with
  | refl => exact unitsAt_lt_succ a
  | step _ ih => exact Nat.lt_trans ih (unitsAt_lt_succ _)

theorem unitsAt_lt_iff {a b : Nat} : unitsAt a < unitsAt b ↔ a < b := by
  constructor
  · intro h
    rcases Nat.lt_trichotomy a b with hlt | rfl | hgt
    · exact hlt
    · exact absurd h (Nat.lt_irrefl _)
    · exact absurd (Nat.lt_trans h (unitsAt_lt hgt)) (Nat.lt_irrefl _)
  · exact unitsAt_lt

theorem units_lt_iff {m n : Magnitude} : m.units < n.units ↔ m.rank < n.rank := unitsAt_lt_iff

theorem units_pos_iff {m : Magnitude} : 0 < m.units ↔ 0 < m.rank :=
  @units_lt_iff zero m

end Magnitude

namespace Double

/-- The number that a double stands for, in units of the least positive size. -/
def units? : Double → Option Int
  | nan => none
  | signed false m => some m.units
  | signed true m => some (-m.units)

theorem units_lt_iff_place_lt {x y : Double} {a b ua ub : Int} (ha : x.place? = some a)
    (hb : y.place? = some b) (hua : x.units? = some ua) (hub : y.units? = some ub) :
    ua < ub ↔ a < b := by
  cases x with
  | nan => cases ha
  | signed xneg m =>
    cases y with
    | nan => cases hb
    | signed yneg n =>
      have hmn := @Magnitude.units_lt_iff m n
      have hnm := @Magnitude.units_lt_iff n m
      have hm := @Magnitude.units_pos_iff m
      have hn := @Magnitude.units_pos_iff n
      cases xneg <;> cases yneg <;> cases ha <;> cases hb <;> cases hua <;> cases hub <;> omega

theorem place?_isSome_eq (x : Double) : x.place?.isSome = x.units?.isSome := by
  cases x with
  | nan => rfl
  | signed negative m => cases negative <;> rfl

theorem compare?_eq_some {x y : Double} {a b : Int} (ha : x.units? = some a)
    (hb : y.units? = some b) : x.compare? y = some (compare a b) := by
  obtain ⟨p, hp⟩ := Option.isSome_iff_exists.mp ((place?_isSome_eq x).trans (by rw [ha]; rfl))
  obtain ⟨q, hq⟩ := Option.isSome_iff_exists.mp ((place?_isSome_eq y).trans (by rw [hb]; rfl))
  have hlt := units_lt_iff_place_lt hp hq ha hb
  have hgt := units_lt_iff_place_lt hq hp hb ha
  simp only [compare?, hp, hq, Option.some.injEq, compare, compareOfLessAndEq]
  by_cases h : a < b
  · rw [if_pos h, if_pos (hlt.mp h)]
  · rw [if_neg h, if_neg (mt hlt.mpr h)]
    by_cases heq : a = b
    · rw [if_pos heq, if_pos (by omega)]
    · rw [if_neg heq, if_neg (by omega)]

end Double

end GridQuery
