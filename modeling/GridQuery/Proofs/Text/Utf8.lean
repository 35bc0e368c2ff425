import GridQuery.Text.Utf8
import Mathlib

/-!
# The bytes of a character

The first byte of a character says how many follow it, and each of those carries six bits.  A byte that
starts a character and the bytes accepted behind it are those in which the character is encoded.
-/

namespace GridQuery.Text.Utf8
variable {c : Char} {b : UInt8} {code : Nat} {p : Pending}

def following : (count code : Nat) → List UInt8
  | 0, _ => []
  | count + 1, code => UInt8.ofNat (0x80 + code / 64 ^ count % 64) :: following count code

theorem toNat_ofNat_of_lt {n : Nat} (h : n < 256) : (UInt8.ofNat n).toNat = n :=
  UInt8.toNat_ofNat_of_lt' h

namespace Pending

/-- A code starts with the bits read, and goes on with a byte that can come next. -/
structure Fits (pending : Pending) (code : Nat) : Prop where
  bits : code / 64 ^ (pending.more + 1) = pending.code
  least : pending.low ≤ 0x80 + code / 64 ^ pending.more % 64
  greatest : 0x80 + code / 64 ^ pending.more % 64 ≤ pending.high

/-- Only a byte that carries six bits can come next. -/
def Narrow (pending : Pending) : Prop := 0x80 ≤ pending.low ∧ pending.high ≤ 0xbf

/-- What is pending behind a byte that is the first of two, of three and of four. -/
def ofTwo (b : Nat) : Pending := ⟨b - 0xc0, 0, 0x80, 0xbf⟩

@[inherit_doc ofTwo]
def ofThree (b : Nat) : Pending :=
  ⟨b - 0xe0, 1, if b = 0xe0 then 0xa0 else 0x80, if b = 0xed then 0x9f else 0xbf⟩

@[inherit_doc ofTwo]
def ofFour (b : Nat) : Pending :=
  ⟨b - 0xf0, 2, if b = 0xf0 then 0x90 else 0x80, if b = 0xf4 then 0x8f else 0xbf⟩

end Pending

open Pending

theorem start_of_one (h : b.toNat < 0x80) : start b = .char (Char.ofNat b.toNat) := by
  rw [start, if_pos h]

theorem start_of_two (h : 0xc2 ≤ b.toNat) (h' : b.toNat < 0xe0) :
    start b = .pending (ofTwo b.toNat) := by
  rw [start, if_neg (by omega), if_neg (by omega), if_pos h']
  rfl

theorem start_of_three (h : 0xe0 ≤ b.toNat) (h' : b.toNat < 0xf0) :
    start b = .pending (ofThree b.toNat) := by
  rw [start, if_neg (by omega), if_neg (by omega), if_neg (by omega), if_pos h']
  rfl

theorem start_of_four (h : 0xf0 ≤ b.toNat) (h' : b.toNat < 0xf5) :
    start b = .pending (ofFour b.toNat) := by
  rw [start, if_neg (by omega), if_neg (by omega), if_neg (by omega), if_neg (by omega), if_pos h']
  rfl

theorem start_of_none (h : 0x80 ≤ b.toNat) (h' : b.toNat < 0xc2 ∨ 0xf5 ≤ b.toNat) :
    start b = .malformed := by
  rw [start, if_neg (by omega)]
  rcases h' with h' | h'
  · rw [if_pos h']
  · rw [if_neg (by omega), if_neg (by omega), if_neg (by omega), if_neg (by omega)]

theorem start_cases (b : UInt8) :
    (b.toNat < 0x80 ∧ start b = .char (Char.ofNat b.toNat)) ∨
      (0xc2 ≤ b.toNat ∧ b.toNat < 0xe0 ∧ start b = .pending (ofTwo b.toNat)) ∨
      (0xe0 ≤ b.toNat ∧ b.toNat < 0xf0 ∧ start b = .pending (ofThree b.toNat)) ∨
      (0xf0 ≤ b.toNat ∧ b.toNat < 0xf5 ∧ start b = .pending (ofFour b.toNat)) ∨
      start b = .malformed := by
  rcases Nat.lt_or_ge b.toNat 0x80 with hone | hone
  · exact .inl ⟨hone, start_of_one hone⟩
  rcases Nat.lt_or_ge b.toNat 0xc2 with hnone | hnone
  · exact .inr (.inr (.inr (.inr (start_of_none hone (.inl hnone)))))
  rcases Nat.lt_or_ge b.toNat 0xe0 with htwo | htwo
  · exact .inr (.inl ⟨hnone, htwo, start_of_two hnone htwo⟩)
  rcases Nat.lt_or_ge b.toNat 0xf0 with hthree | hthree
  · exact .inr (.inr (.inl ⟨htwo, hthree, start_of_three htwo hthree⟩))
  rcases Nat.lt_or_ge b.toNat 0xf5 with hfour | hfour
  · exact .inr (.inr (.inr (.inl ⟨hthree, hfour, start_of_four hthree hfour⟩)))
  · exact .inr (.inr (.inr (.inr (start_of_none hone (.inr hfour)))))

theorem ofThree_narrow (b : Nat) : (ofThree b).Narrow := by
  refine ⟨?_, ?_⟩
  · change 0x80 ≤ if b = 0xe0 then 0xa0 else 0x80
    split <;> omega
  · change (if b = 0xed then 0x9f else 0xbf) ≤ 0xbf
    split <;> omega

theorem ofFour_narrow (b : Nat) : (ofFour b).Narrow := by
  refine ⟨?_, ?_⟩
  · change 0x80 ≤ if b = 0xf0 then 0x90 else 0x80
    split <;> omega
  · change (if b = 0xf4 then 0x8f else 0xbf) ≤ 0xbf
    split <;> omega

theorem narrow_of_start (h : start b = .pending p) : p.Narrow := by
  rcases start_cases b with ⟨_, hb⟩ | ⟨_, _, hb⟩ | ⟨_, _, hb⟩ | ⟨_, _, hb⟩ | hb <;> rw [hb] at h
  · exact absurd h Start.noConfusion
  · rw [← Start.pending.inj h]
    exact ⟨Nat.le_refl 0x80, Nat.le_refl 0xbf⟩
  · rw [← Start.pending.inj h]
    exact ofThree_narrow _
  · rw [← Start.pending.inj h]
    exact ofFour_narrow _
  · exact absurd h Start.noConfusion

theorem start_of_accepts (hnarrow : p.Narrow) (h : p.accepts b) : start b = .malformed := by
  rw [accepts, Bool.and_eq_true, decide_eq_true_iff, decide_eq_true_iff] at h
  obtain ⟨hleast, hgreatest⟩ := hnarrow
  exact start_of_none (Nat.le_trans hleast h.1) (.inl (by omega))

theorem narrow_of_next {q : Pending} (h : p.next b = .pending q) : q.Narrow := by
  unfold next at h
  dsimp only at h
  split at h
  · exact absurd h Start.noConfusion
  · rw [← Start.pending.inj h]
    exact ⟨Nat.le_refl 0x80, Nat.le_refl 0xbf⟩

theorem toNat_sixBits (n : Nat) : (UInt8.ofNat (0x80 + n % 64)).toNat = 0x80 + n % 64 :=
  toNat_ofNat_of_lt (by omega)

theorem accepts_of_fits (h : p.Fits code) :
    p.accepts (UInt8.ofNat (0x80 + code / 64 ^ p.more % 64)) := by
  rw [accepts, toNat_sixBits, Bool.and_eq_true, decide_eq_true_iff, decide_eq_true_iff]
  exact ⟨h.least, h.greatest⟩

theorem fits_and_byte_iff (hnarrow : p.Narrow) (h : p.accepts b) (code : Nat) :
    (p.Fits code ∧ UInt8.ofNat (0x80 + code / 64 ^ p.more % 64) = b) ↔
      code / 64 ^ p.more = 64 * p.code + (b.toNat - 0x80) := by
  rw [accepts, Bool.and_eq_true, decide_eq_true_iff, decide_eq_true_iff] at h
  obtain ⟨hleast, hgreatest⟩ := hnarrow
  have hbits : code / 64 ^ (p.more + 1) = code / 64 ^ p.more / 64 := by
    rw [Nat.pow_succ, Nat.div_div_eq_div_mul]
  rw [← UInt8.toNat_inj, toNat_sixBits]
  constructor
  · rintro ⟨hfits, hbyte⟩
    have hcode := hfits.bits
    omega
  · intro hcode
    refine ⟨⟨?_, ?_, ?_⟩, ?_⟩ <;> omega

theorem next_cases (hnarrow : p.Narrow) (h : p.accepts b) :
    (p.more = 0 ∧ ∃ code, p.next b = .char (Char.ofNat code) ∧
      ∀ other, other = code ↔ p.Fits other ∧ UInt8.ofNat (0x80 + other / 64 ^ p.more % 64) = b) ∨
    ∃ q, p.next b = .pending q ∧ p.more = q.more + 1 ∧
      ∀ code, q.Fits code ↔ p.Fits code ∧ UInt8.ofNat (0x80 + code / 64 ^ p.more % 64) = b := by
  have hfits := fits_and_byte_iff hnarrow h
  obtain ⟨bits, more, low, high⟩ := p
  cases more with
  | zero =>
    refine .inl ⟨rfl, 64 * bits + (b.toNat - 0x80), rfl, fun other => ?_⟩
    rw [hfits, Nat.pow_zero, Nat.div_one]
  | succ more =>
    refine .inr ⟨_, rfl, rfl, fun code => ?_⟩
    rw [hfits]
    constructor
    · exact fun hnext => hnext.bits
    · intro hbits
      refine ⟨hbits, Nat.le_add_right 0x80 _, ?_⟩
      change 0x80 + code / 64 ^ more % 64 ≤ 0xbf
      omega

theorem ofTwo_fits_iff {n : Nat} : (ofTwo n).Fits code ↔ code / 64 = n - 0xc0 := by
  constructor
  · exact fun hfits => hfits.bits
  · intro hbits
    refine ⟨hbits, ?_, ?_⟩
    · exact Nat.le_add_right 0x80 _
    · change 0x80 + code / 1 % 64 ≤ 0xbf
      omega

theorem ofThree_fits_iff {n : Nat} (h : 0xe0 ≤ n) : (ofThree n).Fits code ↔
    code / 4096 = n - 0xe0 ∧ 0x800 ≤ code ∧ ¬ (0xd800 ≤ code ∧ code < 0xe000) := by
  have hleast : (ofThree n).low ≤ 0x80 + code / 64 % 64 ↔ (n = 0xe0 → 0x20 ≤ code / 64 % 64) := by
    change (if n = 0xe0 then 0xa0 else 0x80) ≤ _ ↔ _
    split <;> omega
  have hgreatest : 0x80 + code / 64 % 64 ≤ (ofThree n).high ↔
      (n = 0xed → code / 64 % 64 < 0x20) := by
    change _ ≤ (if n = 0xed then 0x9f else 0xbf) ↔ _
    split <;> omega
  constructor
  · rintro ⟨hbits, hlow, hhigh⟩
    have hbits : code / 4096 = n - 0xe0 := hbits
    have hlow := hleast.mp hlow
    have hhigh := hgreatest.mp hhigh
    omega
  · rintro ⟨hbits, hlow, hhigh⟩
    exact ⟨hbits, hleast.mpr (by omega), hgreatest.mpr (by omega)⟩

theorem ofFour_fits_iff {n : Nat} (h : 0xf0 ≤ n) : (ofFour n).Fits code ↔
    code / 262144 = n - 0xf0 ∧ 0x10000 ≤ code ∧ (n = 0xf4 → code < 0x110000) := by
  have hleast : (ofFour n).low ≤ 0x80 + code / 4096 % 64 ↔
      (n = 0xf0 → 0x10 ≤ code / 4096 % 64) := by
    change (if n = 0xf0 then 0x90 else 0x80) ≤ _ ↔ _
    split <;> omega
  have hgreatest : 0x80 + code / 4096 % 64 ≤ (ofFour n).high ↔
      (n = 0xf4 → code / 4096 % 64 < 0x10) := by
    change _ ≤ (if n = 0xf4 then 0x8f else 0xbf) ↔ _
    split <;> omega
  constructor
  · rintro ⟨hbits, hlow, hhigh⟩
    have hbits : code / 262144 = n - 0xf0 := hbits
    have hlow := hleast.mp hlow
    have hhigh := hgreatest.mp hhigh
    omega
  · rintro ⟨hbits, hlow, hhigh⟩
    exact ⟨hbits, hleast.mpr (by omega), hgreatest.mpr (by omega)⟩

theorem toNat_valid (c : Char) :
    c.toNat < 0xd800 ∨ 0xdfff < c.toNat ∧ c.toNat < 0x110000 := c.valid

theorem exists_toNat_eq (code : Nat) (h : code < 0xd800 ∨ 0xdfff < code ∧ code < 0x110000) :
    ∃ c : Char, c.toNat = code := ⟨Char.ofNatAux code h, rfl⟩

section Encoding

theorem encode_of_one (h : c.toNat < 0x80) :
    String.utf8EncodeChar c = [UInt8.ofNat c.toNat] := by
  rw [String.utf8EncodeChar, if_pos (show c.val.toNat ≤ 0x7f from Nat.le_of_lt_succ h)]
  rfl

theorem encode_of_two (h : 0x80 ≤ c.toNat) (h' : c.toNat < 0x800) :
    String.utf8EncodeChar c = UInt8.ofNat (0xc0 + c.toNat / 64) :: following 1 c.toNat := by
  have hbits : c.toNat / 64 % 32 + 0xc0 = 0xc0 + c.toNat / 64 := by omega
  rw [String.utf8EncodeChar, if_neg (show ¬ c.val.toNat ≤ 0x7f from Nat.not_le_of_lt h),
    if_pos (show c.val.toNat ≤ 0x7ff from Nat.le_of_lt_succ h')]
  change [UInt8.ofNat (c.toNat / 64 % 32 + 0xc0), UInt8.ofNat (c.toNat % 64 + 0x80)] = _
  rw [hbits, following, following, Nat.pow_zero, Nat.div_one, Nat.add_comm (c.toNat % 64)]

theorem encode_of_three (h : 0x800 ≤ c.toNat) (h' : c.toNat < 0x10000) :
    String.utf8EncodeChar c = UInt8.ofNat (0xe0 + c.toNat / 4096) :: following 2 c.toNat := by
  have hbits : c.toNat / 4096 % 16 + 0xe0 = 0xe0 + c.toNat / 4096 := by omega
  rw [String.utf8EncodeChar,
    if_neg (show ¬ c.val.toNat ≤ 0x7f from Nat.not_le_of_lt (Nat.le_trans (by decide) h)),
    if_neg (show ¬ c.val.toNat ≤ 0x7ff from Nat.not_le_of_lt h),
    if_pos (show c.val.toNat ≤ 0xffff from Nat.le_of_lt_succ h')]
  change [UInt8.ofNat (c.toNat / 4096 % 16 + 0xe0), UInt8.ofNat (c.toNat / 64 % 64 + 0x80),
    UInt8.ofNat (c.toNat % 64 + 0x80)] = _
  rw [hbits, following, following, following, Nat.pow_zero, Nat.div_one, Nat.pow_one,
    Nat.add_comm (c.toNat % 64), Nat.add_comm (c.toNat / 64 % 64)]

theorem encode_of_four (h : 0x10000 ≤ c.toNat) :
    String.utf8EncodeChar c = UInt8.ofNat (0xf0 + c.toNat / 262144) :: following 3 c.toNat := by
  have hvalid := toNat_valid c
  have hbits : c.toNat / 262144 % 8 + 0xf0 = 0xf0 + c.toNat / 262144 := by omega
  rw [String.utf8EncodeChar,
    if_neg (show ¬ c.val.toNat ≤ 0x7f from Nat.not_le_of_lt (Nat.le_trans (by decide) h)),
    if_neg (show ¬ c.val.toNat ≤ 0x7ff from Nat.not_le_of_lt (Nat.le_trans (by decide) h)),
    if_neg (show ¬ c.val.toNat ≤ 0xffff from Nat.not_le_of_lt h)]
  change [UInt8.ofNat (c.toNat / 262144 % 8 + 0xf0), UInt8.ofNat (c.toNat / 4096 % 64 + 0x80),
    UInt8.ofNat (c.toNat / 64 % 64 + 0x80), UInt8.ofNat (c.toNat % 64 + 0x80)] = _
  rw [hbits, following, following, following, following, Nat.pow_zero, Nat.div_one, Nat.pow_one,
    show 64 ^ 2 = 4096 from rfl, Nat.add_comm (c.toNat % 64), Nat.add_comm (c.toNat / 64 % 64),
    Nat.add_comm (c.toNat / 4096 % 64)]

end Encoding

theorem ofNat_toNat_add {n k : Nat} (h : n ≤ b.toNat) (hk : k = b.toNat - n) :
    UInt8.ofNat (n + k) = b := by
  rw [hk, Nat.add_sub_cancel' h, UInt8.ofNat_toNat]

theorem encode_of_start_char (h : start b = .char c) : String.utf8EncodeChar c = [b] := by
  rcases start_cases b with ⟨hlt, hb⟩ | ⟨_, _, hb⟩ | ⟨_, _, hb⟩ | ⟨_, _, hb⟩ | hb <;> rw [hb] at h
  · obtain ⟨d, hd⟩ := exists_toNat_eq b.toNat (.inl (Nat.lt_trans hlt (by decide)))
    rw [← hd, Char.ofNat_toNat, Start.char.injEq] at h
    rw [← h, encode_of_one (hd ▸ hlt), hd, UInt8.ofNat_toNat]
  all_goals exact absurd h Start.noConfusion

theorem encode_of_start_pending (h : start b = .pending p) (hfits : p.Fits code) :
    ∃ c : Char, c.toNat = code ∧ String.utf8EncodeChar c = b :: following (p.more + 1) code := by
  rcases start_cases b with ⟨_, hb⟩ | ⟨hge, hlt, hb⟩ | ⟨hge, hlt, hb⟩ | ⟨hge, hlt, hb⟩ | hb <;>
    rw [hb] at h
  · exact absurd h Start.noConfusion
  · obtain rfl := Start.pending.inj h
    have hbits := ofTwo_fits_iff.mp hfits
    obtain ⟨c, rfl⟩ := exists_toNat_eq code (.inl (by omega))
    refine ⟨c, rfl, ?_⟩
    rw [encode_of_two (by omega) (by omega), ofNat_toNat_add (Nat.le_trans (by decide) hge) hbits]
    rfl
  · obtain rfl := Start.pending.inj h
    obtain ⟨hbits, hlow, hhigh⟩ := (ofThree_fits_iff hge).mp hfits
    obtain ⟨c, rfl⟩ := exists_toNat_eq code (by omega)
    refine ⟨c, rfl, ?_⟩
    rw [encode_of_three hlow (by omega), ofNat_toNat_add hge hbits]
    rfl
  · obtain rfl := Start.pending.inj h
    obtain ⟨hbits, hlow, hhigh⟩ := (ofFour_fits_iff hge).mp hfits
    obtain ⟨c, rfl⟩ := exists_toNat_eq code (by omega)
    refine ⟨c, rfl, ?_⟩
    rw [encode_of_four hlow, ofNat_toNat_add hge hbits]
    rfl
  · exact absurd h Start.noConfusion

/-- A character starts with a byte behind which its code fits, if it has more bytes than one. -/
theorem start_of_encode (c : Char) :
    (∃ b, String.utf8EncodeChar c = [b] ∧ start b = .char c) ∨
      ∃ b p, String.utf8EncodeChar c = b :: following (p.more + 1) c.toNat ∧
        start b = .pending p ∧ p.Fits c.toNat := by
  have hvalid := toNat_valid c
  rcases Nat.lt_or_ge c.toNat 0x80 with hone | hone
  · have hbyte := toNat_ofNat_of_lt (Nat.lt_trans hone (by decide : 0x80 < 256))
    refine .inl ⟨_, encode_of_one hone, ?_⟩
    rw [start_of_one (hbyte.symm ▸ hone), hbyte, Char.ofNat_toNat]
  rcases Nat.lt_or_ge c.toNat 0x800 with htwo | htwo
  · have hbyte := toNat_ofNat_of_lt (n := 0xc0 + c.toNat / 64) (by omega)
    refine .inr ⟨_, _, encode_of_two hone htwo, start_of_two (by omega) (by omega), ?_⟩
    exact ofTwo_fits_iff.mpr (by omega)
  rcases Nat.lt_or_ge c.toNat 0x10000 with hthree | hthree
  · have hbyte := toNat_ofNat_of_lt (n := 0xe0 + c.toNat / 4096) (by omega)
    refine .inr ⟨_, _, encode_of_three htwo hthree, start_of_three (by omega) (by omega), ?_⟩
    exact (ofThree_fits_iff (by omega)).mpr (by omega)
  · have hbyte := toNat_ofNat_of_lt (n := 0xf0 + c.toNat / 262144) (by omega)
    refine .inr ⟨_, _, encode_of_four hthree, start_of_four (by omega) (by omega), ?_⟩
    exact (ofFour_fits_iff (by omega)).mpr (by omega)

end GridQuery.Text.Utf8
