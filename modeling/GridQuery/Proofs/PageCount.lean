import GridQuery.Proofs.Number.Quotient
import Mathlib

/-!
# The number of pages

The number of pages is a rounded quotient.  It is the one it takes if that is a size, and if the rows of
the last page are enough to bring the quotient beyond the full pages before it: half a step of the sizes
there, or more than that.
-/

namespace GridQuery

open Magnitude

namespace Page

/-- The rows of a last page bring the quotient beyond the full pages before it: they are more than half the
least size there is, or more than half a step of the sizes around the number of full pages.  Half a step
is enough where rounding to even goes up. -/
def RestSeen (full rest size : Nat) : Prop :=
  if full = 0 then size < rest * 2 ^ 1075
  else size * 2 ^ full.log2 < rest * 2 ^ 53 ∨ full.log2 = 52 ∧ full % 2 = 1 ∧ size = 2 * rest

/-- The number of pages it takes is a size, and none of the sizes below it takes its place. -/
def CountKept (total size : Nat) : Prop :=
  total = 0 ∨ IsWhole ((total - 1) / size + 1) ∧
    ((total - 1) / size < 2 ^ 53 → RestSeen ((total - 1) / size) ((total - 1) % size + 1) size)

/-- The description of a page tells the least number of pages for all rows, if there are rows after this
page, and if there are pages before it. -/
def TellsPlace (page : Page) : Prop := ∃ pages,
  IsLeast {n : Int | page.total ≤ n * page.pageSize} pages ∧ page.totalPages = .ok pages ∧
    page.toValue = .ok (.object [
      ("page", .int page.page),
      ("pageSize", .int page.pageSize),
      ("totalRows", .int page.total),
      ("totalPages", .int pages),
      ("hasNext", .bool (page.page * page.pageSize < page.total)),
      ("hasPrev", .bool (1 < page.page))])

end Page

variable {total size full rest pages : Nat}

theorem two_pow_eq_unitsPerOne : ∃ e, e = 1075 ∧ 2 ^ e = 2 * unitsPerOne := by
  obtain ⟨e, he, hone⟩ := unitsPerOne_eq_two_pow
  refine ⟨e + 53, by omega, ?_⟩
  rw [hone, Nat.pow_add]
  omega

/-- What is added to two numbers to make them equal compares as they do, the other way round. -/
theorem compares_of_balance {a b x y c d : Nat} (hc : 0 < c) (hd : 0 < d)
    (balance : a * c + y * d = b * c + x * d) : (a < b ↔ x < y) ∧ (a = b ↔ x = y) := by
  have hab : a * c < b * c ↔ a < b := Nat.mul_lt_mul_right hc
  have hxy : x * d < y * d ↔ x < y := Nat.mul_lt_mul_right hd
  have hba : b * c < a * c ↔ b < a := Nat.mul_lt_mul_right hc
  have hyx : y * d < x * d ↔ y < x := Nat.mul_lt_mul_right hd
  omega

section Rest
variable (hsize : 0 < size)
include hsize

theorem nearestRank_pos_iff : 0 < nearestRank rest size ↔ size < rest * (2 * unitsPerOne) := by
  rw [lt_nearestRank_iff hsize, unitsAt_of_small (by decide), unitsAt_of_small (by decide),
    Nat.mul_left_comm rest]
  omega

/-- Beyond some full pages the quotient is more than their number if it is more than half a step. -/
theorem lt_unitsAt_nearestRank_iff (hfull : full ≠ 0) (hless : full < 2 ^ 53) :
    full * unitsPerOne < unitsAt (nearestRank (full * size + rest) size) ↔
      size * 2 ^ full.log2 < rest * 2 ^ 53 ∨ full.log2 = 52 ∧ full % 2 = 1 ∧ size = 2 * rest := by
  have hlog : full.log2 ≤ 52 := Nat.le_of_lt_succ ((Nat.log2_lt hfull).mpr hless)
  have hdigits : full * 2 ^ (52 - full.log2) * 2 ^ full.log2 = full * 2 ^ 52 := by
    rw [Nat.mul_assoc, ← Nat.pow_add, Nat.sub_add_cancel hlog]
  obtain ⟨rank, -, hunits, hnext, hparity⟩ := exists_rank hfull (by omega) hdigits
  rw [← hunits, unitsAt_lt_iff, lt_nearestRank_iff hsize, hunits, hparity, digits_odd_iff hlog]
  have hone := unitsPerOne_pos
  generalize unitsPerOne = one at hnext hone ⊢
  generalize unitsAt (rank + 1) = next at hnext ⊢
  have balance : size * (full * one + next) * 2 ^ 52 + rest * 2 ^ 53 * one =
      2 * ((full * size + rest) * one) * 2 ^ 52 + size * 2 ^ full.log2 * one := by
    calc size * (full * one + next) * 2 ^ 52 + rest * 2 ^ 53 * one
        = size * full * one * 2 ^ 52 + size * (next * 2 ^ 52) + rest * 2 ^ 53 * one := by ring
      _ = 2 * ((full * size + rest) * one) * 2 ^ 52 + size * 2 ^ full.log2 * one := by
          rw [hnext]
          ring
  obtain ⟨hlt, heq⟩ := compares_of_balance (Nat.two_pow_pos 52) hone balance
  rw [hlt, heq]
  refine or_congr_right ⟨?_, ?_⟩
  · rintro ⟨hmiddle, hfirst, hodd⟩
    rw [hfirst] at hmiddle
    exact ⟨hfirst, hodd, by omega⟩
  · rintro ⟨hfirst, hodd, hhalf⟩
    refine ⟨?_, hfirst, hodd⟩
    rw [hfirst, hhalf]
    ring

end Rest

theorem lt_unitsAt_iff_restSeen (hsize : 0 < size) (hless : full < 2 ^ 53) :
    full * unitsPerOne < unitsAt (nearestRank (full * size + rest) size) ↔
      Page.RestSeen full rest size := by
  rw [Page.RestSeen]
  split
  case isTrue hfull =>
    obtain ⟨e, he, hpow⟩ := two_pow_eq_unitsPerOne
    rw [← he, hpow, ← nearestRank_pos_iff hsize, hfull, Nat.zero_mul, Nat.zero_mul, Nat.zero_add]
    exact @unitsAt_lt_iff 0 _
  case isFalse hfull => exact lt_unitsAt_nearestRank_iff hsize hfull hless

theorem le_pages (hpage : rest ≤ size) : full * size + rest ≤ (full + 1) * size := by
  rw [Nat.add_mul]
  omega

/-- Where sizes are two apart, a quotient beyond the number of full pages goes to the size after it. -/
theorem lt_nearestRank_of_step {before : Nat} (hsize : 0 < size) (hrest : 0 < rest)
    (hunits : unitsAt (before + 1) = (full + 1) * unitsPerOne)
    (hstep : unitsAt before + 2 * unitsPerOne ≤ unitsAt (before + 1)) :
    before < nearestRank (full * size + rest) size := by
  rw [lt_nearestRank_iff hsize]
  left
  rw [hunits, Nat.add_mul full, Nat.one_mul] at hstep ⊢
  have hone := unitsPerOne_pos
  generalize unitsPerOne = one at hstep hone ⊢
  calc size * (unitsAt before + (full * one + one))
      ≤ size * (2 * (full * one)) := Nat.mul_le_mul_left size (by omega)
    _ = 2 * (full * size * one) := by ring
    _ < 2 * ((full * size + rest) * one) := by
        have hmore := Nat.mul_pos hrest hone
        rw [Nat.add_mul _ rest]
        omega

section Large
variable (hsize : 0 < size) (hrest : 0 < rest) (hpage : rest ≤ size) (hmore : 2 ^ 53 ≤ full)
include hsize hrest hpage hmore

theorem unitsAt_nearestRank_of_isWhole (whole : IsWhole (full + 1)) :
    nearestRank (full * size + rest) size < topRank ∧
      unitsAt (nearestRank (full * size + rest) size) = (full + 1) * unitsPerOne := by
  obtain ⟨rank, htop, hunits⟩ := whole.exists_rank
  obtain ⟨start, -, hstart⟩ := (isWhole_of_le (Nat.le_refl (2 ^ 53))).exists_rank
  have hle := nearestRank_le_of_pages hsize hunits (le_pages hpage)
  have hpast : start < rank := by
    rw [← unitsAt_lt_iff, hstart, hunits]
    exact Nat.mul_lt_mul_of_pos_right (by omega) unitsPerOne_pos
  obtain ⟨before, rfl⟩ := Nat.exists_eq_add_of_lt hpast
  have hlarge : 2 ^ 53 * unitsPerOne ≤ unitsAt (start + before) := by
    rw [← hstart]
    exact unitsAt_le (Nat.le_add_right start before)
  have hstep := unitsAt_add_two_le hlarge (Nat.lt_succ_self (start + before))
  have heq := Nat.le_antisymm hle (lt_nearestRank_of_step hsize hrest hunits hstep)
  exact ⟨heq ▸ htop, heq ▸ hunits⟩

omit hrest hpage in
theorem isWhole_of_ceilQuotient
    (htold : ceilQuotient ((full * size + rest : Nat) : Int) size = .ok ((full + 1 : Nat) : Int)) :
    IsWhole (full + 1) := by
  obtain ⟨htop, hlt, hle⟩ := (ceilQuotient_eq_succ_iff hsize).mp htold
  have hlarge : 2 ^ 53 * unitsPerOne ≤ unitsAt (nearestRank (full * size + rest) size) :=
    Nat.le_trans (Nat.mul_le_mul_right _ hmore) (Nat.le_of_lt hlt)
  obtain ⟨half, hhalf⟩ := two_mul_dvd_unitsAt hlarge
  apply isWhole_of_unitsAt htop
  rw [hhalf, Nat.mul_right_comm] at hle hlt ⊢
  have hfrom := Nat.lt_of_mul_lt_mul_right hlt
  have hto := Nat.le_of_mul_le_mul_right hle unitsPerOne_pos
  congr 1
  omega

end Large

/-- The number of pages it takes is told exactly if it is a size and the last page is seen. -/
theorem ceilQuotient_eq_pages_iff (hsize : 0 < size) (hrest : 0 < rest) (hpage : rest ≤ size) :
    ceilQuotient ((full * size + rest : Nat) : Int) size = .ok ((full + 1 : Nat) : Int) ↔
      IsWhole (full + 1) ∧ (full < 2 ^ 53 → Page.RestSeen full rest size) := by
  by_cases hless : full < 2 ^ 53
  · have whole : IsWhole (full + 1) := isWhole_of_le hless
    obtain ⟨rank, htop, hunits⟩ := whole.exists_rank
    have hle := nearestRank_le_of_pages hsize hunits (le_pages hpage)
    rw [ceilQuotient_eq_succ_iff hsize, and_iff_right whole, imp_iff_right hless,
      ← lt_unitsAt_iff_restSeen hsize hless, and_iff_right (Nat.lt_of_le_of_lt hle htop), ← hunits,
      and_iff_left (unitsAt_le hle)]
  · have hmore := Nat.le_of_not_lt hless
    rw [and_iff_left fun h => absurd h hless]
    refine ⟨isWhole_of_ceilQuotient hsize hmore, fun whole => ?_⟩
    obtain ⟨htop, hunits⟩ := unitsAt_nearestRank_of_isWhole hsize hrest hpage hmore whole
    rw [ceilQuotient_eq_succ_iff hsize, hunits]
    exact ⟨htop, Nat.mul_lt_mul_of_pos_right (Nat.lt_succ_self full) unitsPerOne_pos, Nat.le_refl _⟩

theorem isLeast_pages (hrest : 0 < rest) (hpage : rest ≤ size) :
    IsLeast {n : Int | ((full * size + rest : Nat) : Int) ≤ n * (size : Int)} ((full + 1 : Nat) : Int) := by
  constructor
  · change ((full * size + rest : Nat) : Int) ≤ ((full + 1 : Nat) : Int) * (size : Int)
    exact_mod_cast le_pages hpage
  · intro n (hn : _ ≤ n * (size : Int))
    by_contra hless
    have hfew : n * (size : Int) ≤ (full : Int) * size :=
      Int.mul_le_mul_of_nonneg_right (by omega) (by omega)
    push_cast at hn
    omega

namespace Page
variable {page : Page}

theorem tellsPlace_iff_of_isLeast (hsize : 0 ≤ page.pageSize) {pages : Int}
    (hleast : IsLeast {n : Int | page.total ≤ n * page.pageSize} pages) :
    page.TellsPlace ↔ page.totalPages = .ok pages := by
  constructor
  · rintro ⟨told, htold, hpages, -⟩
    rwa [hleast.unique htold]
  · intro hpages
    have hnext : page.page < pages ↔ page.page * page.pageSize < page.total := by
      rw [← Int.not_le, ← Int.not_le]
      exact not_congr ⟨fun h => Int.le_trans hleast.1 (Int.mul_le_mul_of_nonneg_right h hsize),
        fun h => hleast.2 h⟩
    refine ⟨pages, hleast, hpages, ?_⟩
    simp only [toValue, hpages, bind, Except.bind, pure, Except.pure, hnext]

theorem countKept_of_le (htotal : total ≤ 2 ^ 53) (hsize : size < 2 ^ 1075) : CountKept total size := by
  by_cases hzero : total = 0
  · exact .inl hzero
  · have hfull : (total - 1) / size * size ≤ total - 1 := Nat.div_mul_le_self _ _
    have hrest : 0 < (total - 1) % size + 1 := Nat.succ_pos _
    have hless : (total - 1) / size ≤ total - 1 := Nat.div_le_self _ _
    refine .inr ⟨isWhole_of_le (by omega), fun _ => ?_⟩
    rw [RestSeen]
    split
    case isTrue => exact Nat.lt_of_lt_of_le hsize (Nat.le_mul_of_pos_left _ hrest)
    case isFalse hne =>
      left
      calc size * 2 ^ ((total - 1) / size).log2
          ≤ size * ((total - 1) / size) := Nat.mul_le_mul_left size (Nat.log2_self_le hne)
        _ < 2 ^ 53 := by
            rw [Nat.mul_comm]
            omega
        _ ≤ ((total - 1) % size + 1) * 2 ^ 53 := Nat.le_mul_of_pos_left _ hrest

theorem tellsPlace_iff_countKept {rows : List Row} {number : Int} (hsize : 0 < size) :
    TellsPlace ⟨rows, total, number, size⟩ ↔ CountKept total size := by
  cases total with
  | zero =>
    obtain ⟨pages, hpages, hle⟩ := @ceilQuotient_le 0 size 0 hsize (by decide) (Nat.zero_le _)
    obtain rfl := Nat.le_zero.mp hle
    have hleast : IsLeast {n : Int | ((0 : Nat) : Int) ≤ n * (size : Int)} 0 :=
      ⟨by simp, fun _ henough => nonneg_of_mul_nonneg_left henough (by omega)⟩
    exact iff_of_true ((tellsPlace_iff_of_isLeast (Int.natCast_nonneg size) hleast).mpr hpages) (.inl rfl)
  | succ before =>
    have hsplit : before + 1 = before / size * size + (before % size + 1) := by
      rw [← Nat.add_assoc, Nat.div_add_mod']
    have hrest : 0 < before % size + 1 := Nat.succ_pos _
    have hpage : before % size + 1 ≤ size := Nat.mod_lt before hsize
    rw [CountKept, or_iff_right (Nat.succ_ne_zero before), Nat.add_sub_cancel, hsplit,
      tellsPlace_iff_of_isLeast (Int.natCast_nonneg size) (isLeast_pages hrest hpage),
      ← ceilQuotient_eq_pages_iff hsize hrest hpage]
    rfl

/-- A page tells its place exactly if the number of pages is a size, and if the rows of the last page are
seen.  So it always does with no more than `2 ^ 53` rows, unless one row is too little of a page. -/
theorem tellsPlace_iff (page : Page) (htotal : 0 ≤ page.total) (hsize : 1 ≤ page.pageSize) :
    (page.TellsPlace ↔ CountKept page.total.toNat page.pageSize.toNat) ∧
      (page.total ≤ 2 ^ 53 → page.pageSize < 2 ^ 1075 → page.TellsPlace) := by
  obtain ⟨rows, total, number, size⟩ := page
  obtain ⟨total, rfl⟩ := Int.eq_ofNat_of_zero_le htotal
  obtain ⟨size, rfl⟩ := Int.eq_ofNat_of_zero_le (Int.le_trans (by decide) hsize)
  have hiff : TellsPlace ⟨rows, total, number, size⟩ ↔ CountKept total size :=
    tellsPlace_iff_countKept (Int.ofNat_le.mp hsize)
  have hcast {n e : Nat} : (n : Int) < 2 ^ e → n < 2 ^ e := fun h => by exact_mod_cast h
  refine ⟨hiff, fun hfew hsmall => hiff.mpr (countKept_of_le ?_ (hcast hsmall))⟩
  exact Int.ofNat_le.mp hfew

theorem tellsPlace_iff_last : CountKept 5 2 ∧ TellsPlace ⟨[], 5, 3, 2⟩ := by
  obtain ⟨hiff, hfew⟩ := tellsPlace_iff ⟨[], 5, 3, 2⟩ (by decide) (by decide)
  have htells := hfew (by decide) (by decide +kernel)
  exact ⟨hiff.mp htells, htells⟩

theorem tellsPlace_fails_many : ¬TellsPlace ⟨[], 2 ^ 53 + 1, 2 ^ 53, 1⟩ := by
  rintro ⟨pages, ⟨henough, -⟩, hpages, -⟩
  have hquotient : ceilQuotient (2 ^ 53 + 1) 1 = .ok (2 ^ 53) := by decide +kernel
  obtain rfl := Except.ok.inj (hquotient.symm.trans hpages)
  exact absurd henough (by decide)

end Page

end GridQuery
