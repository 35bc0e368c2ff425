import GridQuery.Json.Writer
import GridQuery.Proofs.Json.Grammar
import GridQuery.Proofs.Number.Shortest
import Mathlib

/-!
# Written numbers

The digits of a whole number spell it, and the written form of a double spells a number that the double
is nearest to.  Where the point is put, and how many zeros are put beside it, changes the digits and the
power of ten together.
-/

namespace GridQuery

theorem Text.isAsciiDigit_of_isDigit {c : Char} (h : c.isDigit) : Text.isAsciiDigit c := by
  have hc : '0' ≤ c ∧ c ≤ '9' := by
    rw [Char.isDigit, Bool.and_eq_true, decide_eq_true_eq, decide_eq_true_eq] at h
    exact h
  simp [Text.isAsciiDigit, Text.asciiDigit?, hc]

theorem Text.exists_digitChar {c : Char} (h : isAsciiDigit c = true) :
    ∃ d < 10, c = Nat.digitChar d := by
  have hrange : '0' ≤ c ∧ c ≤ '9' := by
    by_contra hrange
    simp [isAsciiDigit, asciiDigit?, hrange] at h
  have hlow : 48 ≤ c.toNat := hrange.1
  have hhigh : c.toNat ≤ 57 := hrange.2
  refine ⟨c.toNat - 48, by omega, ?_⟩
  apply Char.toNat_inj.mp
  rw [Nat.toNat_digitChar_of_lt_ten (by omega)]
  omega

namespace Json
open Decimal
variable {digits more rest : List Char}

def AllDigits (digits : List Char) : Prop := ∀ c ∈ digits, Text.isAsciiDigit c

theorem allDigits_append (h : AllDigits digits) (hmore : AllDigits more) :
    AllDigits (digits ++ more) := by
  intro c hc
  rcases List.mem_append.mp hc with hc | hc
  · exact h c hc
  · exact hmore c hc

theorem allDigits_numeral (n : Nat) : AllDigits (numeral n) := by
  intro c hc
  exact Text.isAsciiDigit_of_isDigit (Nat.isDigit_of_mem_toDigits (by decide) (by decide) hc)

theorem allDigits_zero : AllDigits ['0'] := by
  intro c hc
  rw [List.mem_singleton.mp hc]
  rfl

theorem allDigits_zeros (n : Nat) : AllDigits (List.replicate n '0') := by
  intro c hc
  rw [List.eq_of_mem_replicate hc]
  rfl

theorem foldl_digits (h : AllDigits digits) (n : Nat) :
    (digits.filterMap Text.asciiDigit?).foldl (fun n d => 10 * n + d) n =
      Nat.ofDigitChars 10 digits n := by
  induction digits generalizing n with
  | nil => rfl
  | cons c digits ih =>
    obtain ⟨hc, hdigits⟩ := List.forall_mem_cons.mp h
    have hrange : '0' ≤ c ∧ c ≤ '9' := by
      by_contra hrange
      simp [Text.isAsciiDigit, Text.asciiDigit?, hrange] at hc
    have hdigit : Text.asciiDigit? c = some (c.toNat - '0'.toNat) := if_pos hrange
    rw [List.filterMap_cons_some hdigit, List.foldl_cons, ih hdigits, Nat.ofDigitChars_cons]

theorem ofChars_eq (h : AllDigits digits) : ofChars digits = Nat.ofDigitChars 10 digits 0 :=
  foldl_digits h 0

theorem ofChars_append (h : AllDigits digits) (hmore : AllDigits more) :
    ofChars (digits ++ more) = ofChars digits * 10 ^ more.length + ofChars more := by
  rw [ofChars_eq (allDigits_append h hmore), ofChars_eq h, ofChars_eq hmore,
    Nat.ofDigitChars_append, Nat.ofDigitChars_eq_ofDigitChars_zero, Nat.mul_comm]

theorem ofChars_numeral (n : Nat) : ofChars (numeral n) = n := by
  rw [ofChars_eq (allDigits_numeral n)]
  exact Nat.ofDigitChars_toDigits (by decide) (by decide)

theorem ofChars_zero : ofChars ['0'] = 0 := rfl

theorem ofChars_zeros (n : Nat) : ofChars (List.replicate n '0') = 0 := by
  rw [ofChars_eq (allDigits_zeros n), Nat.ofDigitChars_replicate_zero, Nat.mul_zero]

theorem numeral_ne_nil (n : Nat) : numeral n ≠ [] := Nat.toDigits_ne_nil

theorem numeral_head_ne {n : Nat} (h : 0 < n) : (numeral n).head? ≠ some '0' := by
  induction n using Nat.strong_induction_on with
  | _ n ih =>
    rw [numeral]
    by_cases hsmall : n < 10
    · rw [Nat.toDigits_of_lt_base hsmall]
      intro hhead
      have hdigit : ∀ d < 10, Nat.digitChar d = '0' → d = 0 := by decide
      have := hdigit n hsmall (Option.some.inj hhead)
      omega
    · rw [Nat.toDigits_of_base_le (by decide) (by omega), List.head?_append_of_ne_nil _ Nat.toDigits_ne_nil]
      exact ih (n / 10) (by omega) (by omega)

theorem whole_numeral (n : Nat) (rest : List Char) : Whole (numeral n) (numeral n ++ rest) rest where
  split := rfl
  nonempty := numeral_ne_nil n
  all := allDigits_numeral n
  zero := by
    intro hhead
    rcases Nat.eq_zero_or_pos n with rfl | hpos
    · rfl
    · exact absurd hhead (numeral_head_ne hpos)

section Reals
variable {longest : Nat} {negative : Bool} {d : Decimal}

theorem Unsigned.of_nearest {fraction text middle tail : List Char} {power : Option Int}
    {size : Magnitude} (whole : Whole digits text middle) (behind : Fraction fraction middle tail)
    (exponent : Exponent power tail rest) (broken : fraction ≠ [] ∨ power.isSome)
    (h : nearest ⟨ofChars (digits ++ fraction), power.getD 0 - fraction.length⟩ = size) :
    Unsigned longest negative (.real (.signed negative size)) text rest :=
  h ▸ .real whole behind exponent broken

theorem unsigned_positional (hpos : 0 < d.digits) (rest : List Char) :
    Unsigned longest negative (.real (.signed negative d.nearest))
      (positional (numeral d.digits) ((numeral d.digits).length + d.exponent) ++ rest) rest := by
  have hall := allDigits_numeral d.digits
  have hvalue := ofChars_numeral d.digits
  have hhead := numeral_head_ne hpos
  have hnonempty := numeral_ne_nil d.digits
  generalize numeral d.digits = digits at hall hvalue hhead hnonempty
  unfold positional
  split
  · rename_i hpoint
    generalize hzeros : (-((digits.length : Int) + d.exponent)).toNat = zeros
    have hfraction := allDigits_append (allDigits_zeros zeros) hall
    have hdigits : Digits (List.replicate zeros '0' ++ digits)
        (List.replicate zeros '0' ++ digits ++ rest) rest :=
      ⟨rfl, by simp [hnonempty], hfraction⟩
    have hwhole : Whole ['0'] ('0' :: '.' :: (List.replicate zeros '0' ++ digits ++ rest))
        ('.' :: (List.replicate zeros '0' ++ digits ++ rest)) :=
      ⟨⟨rfl, by simp, allDigits_zero⟩, fun _ => rfl⟩
    refine .of_nearest hwhole (.point hdigits) .absent (Or.inl hdigits.nonempty) ?_
    rw [ofChars_append (allDigits_zero) hfraction, ofChars_append (allDigits_zeros zeros) hall,
      ofChars_zeros, ofChars_zero, hvalue, List.length_append, List.length_replicate]
    congr 2
    · omega
    · simp only [Option.getD_none]
      omega
  · split
    · rename_i hpoint hlength
      generalize hzeros : ((digits.length : Int) + d.exponent).toNat - digits.length = zeros
      have hall' := allDigits_append hall (allDigits_zeros zeros)
      have hwhole : Whole (digits ++ List.replicate zeros '0')
          (digits ++ List.replicate zeros '0' ++ ('.' :: '0' :: rest)) ('.' :: '0' :: rest) := by
        refine ⟨⟨rfl, by simp [hnonempty], hall'⟩, ?_⟩
        rw [List.head?_append_of_ne_nil _ hnonempty]
        intro hzero
        exact absurd hzero hhead
      have hdigits : Digits ['0'] ('0' :: rest) rest := ⟨rfl, by simp, allDigits_zero⟩
      rw [List.append_assoc]
      refine .of_nearest hwhole (.point hdigits) .absent (Or.inl hdigits.nonempty) ?_
      rw [ofChars_append hall' (allDigits_zero), ofChars_append hall (allDigits_zeros zeros),
        ofChars_zeros, ofChars_zero, hvalue, List.length_replicate, Nat.add_zero, Nat.add_zero,
        nearest_mul_pow, nearest_mul_pow]
      congr 2
      simp only [Option.getD_none, List.length_singleton]
      omega
    · rename_i hpoint hlength
      generalize hplace : ((digits.length : Int) + d.exponent).toNat = place
      have hsplit : digits = digits.take place ++ digits.drop place :=
        (List.take_append_drop place digits).symm
      have htake : AllDigits (digits.take place) := fun c hc => hall c (List.mem_of_mem_take hc)
      have hdrop : AllDigits (digits.drop place) := fun c hc => hall c (List.mem_of_mem_drop hc)
      have hwhole : Whole (digits.take place)
          (digits.take place ++ ('.' :: (digits.drop place ++ rest)))
          ('.' :: (digits.drop place ++ rest)) := by
        refine ⟨⟨rfl, by simp [hnonempty]; omega, htake⟩, ?_⟩
        rw [List.head?_take, if_neg (by omega)]
        intro hzero
        exact absurd hzero hhead
      have hdigits : Digits (digits.drop place) (digits.drop place ++ rest) rest :=
        ⟨rfl, by simp; omega, hdrop⟩
      rw [List.append_assoc]
      refine .of_nearest hwhole (.point hdigits) .absent (Or.inl hdigits.nonempty) ?_
      rw [← hsplit, hvalue, List.length_drop]
      congr 2
      simp only [Option.getD_none]
      omega

theorem exponent_power (power : Int) (rest : List Char) :
    Exponent (some power) ('e' :: (if power < 0 then '-' else '+') ::
      (List.replicate (2 - (numeral power.natAbs).length) '0' ++ (numeral power.natAbs ++ rest)))
      rest := by
  have hall := allDigits_append (allDigits_zeros (2 - (numeral power.natAbs).length))
    (allDigits_numeral power.natAbs)
  have hsize : ofChars (List.replicate (2 - (numeral power.natAbs).length) '0' ++
      numeral power.natAbs) = power.natAbs := by
    rw [ofChars_append (allDigits_zeros _) (allDigits_numeral _), ofChars_zeros, ofChars_numeral,
      Nat.zero_mul, Nat.zero_add]
  have hdigits : Digits _ (List.replicate (2 - (numeral power.natAbs).length) '0' ++
      (numeral power.natAbs ++ rest)) rest :=
    ⟨(List.append_assoc ..).symm, by simp [numeral_ne_nil], hall⟩
  split
  · have hminus := Exponent.power (Or.inl rfl) .minus hdigits
    rwa [hsize, show -1 * (power.natAbs : Int) = power by omega] at hminus
  · have hplus := Exponent.power (Or.inl rfl) .plus hdigits
    rwa [hsize, show 1 * (power.natAbs : Int) = power by omega] at hplus

theorem unsigned_scientific (d : Decimal) (rest : List Char) :
    Unsigned longest negative (.real (.signed negative d.nearest))
      (scientific (numeral d.digits) ((numeral d.digits).length + d.exponent - 1) ++ rest) rest := by
  have hall := allDigits_numeral d.digits
  have hvalue := ofChars_numeral d.digits
  have hnonempty := numeral_ne_nil d.digits
  generalize numeral d.digits = digits at hall hvalue hnonempty
  cases digits with
  | nil => exact absurd rfl hnonempty
  | cons c digits =>
    obtain ⟨hc, hdigits⟩ := List.forall_mem_cons.mp hall
    generalize hpower : (((c :: digits).length : Nat) : Int) + d.exponent - 1 = power
    have hexponent := exponent_power power rest
    unfold scientific
    simp only [List.append_assoc, List.cons_append]
    have hnearest : nearest ⟨ofChars ([c] ++ digits), (some power).getD 0 - digits.length⟩ =
        d.nearest := by
      rw [List.singleton_append, hvalue]
      congr 2
      simp only [Option.getD_some, List.length_cons] at hpower ⊢
      omega
    have hwhole (middle : List Char) : Whole [c] (c :: middle) middle := by
      refine ⟨⟨rfl, by simp, List.forall_mem_singleton.mpr hc⟩, ?_⟩
      intro hzero
      rw [Option.some.inj hzero]
    cases digits with
    | nil => exact .of_nearest (hwhole _) .absent hexponent (Or.inr rfl) hnearest
    | cons d digits =>
      have hfraction (middle : List Char) :
          Fraction (d :: digits) ('.' :: (d :: digits ++ middle)) middle :=
        .point ⟨rfl, by simp, hdigits⟩
      exact .of_nearest (hwhole _) (hfraction _) hexponent (Or.inr rfl) hnearest

theorem unsigned_written (hpos : 0 < d.digits) (rest : List Char) :
    Unsigned longest negative (.real (.signed negative d.nearest)) (d.written ++ rest) rest := by
  unfold Decimal.written
  dsimp only
  split
  · exact unsigned_positional hpos rest
  · exact unsigned_scientific d rest

theorem unsigned_magnitude {m : Magnitude} (h : m.isFinite) (rest : List Char) :
    Unsigned longest negative (.real (.signed negative m)) (m.written ++ rest) rest := by
  rw [Magnitude.written, if_pos h]
  split
  · rename_i hrank
    have hzero : m = .zero := by
      obtain ⟨rank, _⟩ := m
      cases hrank
      rfl
    have hdigits : Digits ['0'] ('0' :: rest) rest := ⟨rfl, by simp, allDigits_zero⟩
    have hwhole : Whole ['0'] ('0' :: '.' :: '0' :: rest) ('.' :: '0' :: rest) :=
      ⟨⟨rfl, by simp, allDigits_zero⟩, fun _ => rfl⟩
    rw [hzero]
    exact .of_nearest hwhole (.point hdigits) .absent (Or.inl hdigits.nonempty) rfl
  · rename_i hrank
    have hunits : 0 < m.units := Magnitude.units_pos_iff.mpr (Nat.pos_of_ne_zero hrank)
    have hnearest := nearest_shortest hunits h
    have hpos : 0 < (shortest m).digits := by
      apply Nat.pos_of_ne_zero
      intro hdigits
      rw [nearest, if_pos hdigits] at hnearest
      exact hrank (congrArg Magnitude.rank hnearest).symm
    have hwritten := @unsigned_written longest negative (shortest m) hpos rest
    rwa [hnearest] at hwritten

end Reals

theorem number_writeReal {longest : Nat} {x : Double} (h : x.isFinite) (rest : List Char) :
    Number longest (.real x) (writeReal x ++ rest) rest := by
  cases x with
  | nan => cases h
  | signed negative m =>
    have hfinite : m.isFinite := h
    rw [writeReal, if_pos hfinite]
    cases negative with
    | false => exact .positive (unsigned_magnitude hfinite rest)
    | true => exact .negative (unsigned_magnitude hfinite rest)

theorem toList_toString (n : Int) :
    (toString n).toList = if n < 0 then '-' :: numeral n.natAbs else numeral n.natAbs := by
  rw [Int.toString_eq_repr, Int.repr_eq_if, numeral]
  split
  · rename_i hn
    rw [if_neg (by omega), Nat.repr_eq_ofList_toDigits, String.toList_ofList,
      show n.toNat = n.natAbs by omega]
  · rename_i hn
    rw [if_pos (by omega), Nat.repr_eq_ofList_toDigits, String.toList_append,
      show (-n).toNat = n.natAbs by omega]
    simp only [String.toList_ofList]
    rfl

theorem mem_toString {c : Char} {n : Int} (h : c ∈ (toString n).toList) :
    c = '-' ∨ Text.isAsciiDigit c := by
  rw [toList_toString] at h
  split at h
  · exact (List.mem_cons.mp h).imp_right (allDigits_numeral _ c)
  · exact .inr (allDigits_numeral _ c h)

theorem number_toString {longest : Nat} {n : Int} (h : (numeral n.natAbs).length ≤ longest)
    (rest : List Char) : Number longest (.int n) ((toString n).toList ++ rest) rest := by
  have hwhole := whole_numeral n.natAbs rest
  rw [toList_toString]
  split
  · have hnumber := Number.negative (Unsigned.int hwhole h)
    rwa [ofChars_numeral, if_pos rfl, show -(n.natAbs : Int) = n by omega] at hnumber
  · have hnumber := Number.positive (Unsigned.int hwhole h)
    rwa [ofChars_numeral, if_neg Bool.false_ne_true, show (n.natAbs : Int) = n by omega] at hnumber

def isNumeric (c : Char) : Bool :=
  Text.isAsciiDigit c || ['.', 'e', 'E', '+', '-', 'I', 'n', 'f', 'i', 't', 'y'].contains c

/-- A reader passes over a piece of a text that is written with these. -/
def Passes (text rest : List Char) : Prop :=
  ∃ piece, text = piece ++ rest ∧ ∀ c ∈ piece, isNumeric c = true

section Passing
variable {text middle : List Char}

theorem Passes.trans (h : Passes text middle) (hmore : Passes middle rest) : Passes text rest := by
  obtain ⟨piece, rfl, hpiece⟩ := h
  obtain ⟨next, rfl, hnext⟩ := hmore
  refine ⟨piece ++ next, (List.append_assoc ..).symm, ?_⟩
  intro c hc
  rcases List.mem_append.mp hc with hc | hc
  · exact hpiece c hc
  · exact hnext c hc

theorem passes_cons {c : Char} (hc : isNumeric c = true) (h : Passes text rest) :
    Passes (c :: text) rest :=
  Passes.trans ⟨[c], rfl, List.forall_mem_singleton.mpr hc⟩ h

theorem passes_refl (text : List Char) : Passes text text := ⟨[], rfl, nofun⟩

theorem Digits.passes (h : Digits digits text rest) : Passes text rest := by
  refine ⟨digits, h.split, ?_⟩
  intro c hc
  rw [isNumeric, h.all c hc, Bool.true_or]

theorem Exponent.passes {power : Option Int} (h : Exponent power text rest) : Passes text rest := by
  cases h with
  | absent => exact passes_refl rest
  | power he hsign h =>
    have hnumeric : ∀ c, c = 'e' ∨ c = 'E' → isNumeric c = true := by
      intro c hc
      rcases hc with rfl | rfl
      · decide
      · decide
    apply passes_cons (hnumeric _ he)
    cases hsign with
    | absent => exact h.passes
    | plus => exact passes_cons (by decide) h.passes
    | minus => exact passes_cons (by decide) h.passes

theorem Unsigned.passes {longest : Nat} {negative : Bool} {value : Value}
    (h : Unsigned longest negative value text rest) : Passes text rest := by
  cases h with
  | int whole _ => exact whole.passes
  | real whole behind exponent _ =>
    apply whole.passes.trans
    cases behind with
    | absent => exact exponent.passes
    | point h => exact (passes_cons (by decide) h.passes).trans exponent.passes

theorem Number.passes {longest : Nat} {value : Value} (h : Number longest value text rest) :
    Passes text rest := by
  cases h with
  | positive h => exact h.passes
  | negative h => exact passes_cons (by decide) h.passes
  | infinity => exact ⟨['I', 'n', 'f', 'i', 'n', 'i', 't', 'y'], rfl, by simp [Json.isNumeric]⟩
  | negativeInfinity => exact ⟨['-', 'I', 'n', 'f', 'i', 'n', 'i', 't', 'y'], rfl, by simp [Json.isNumeric]⟩

theorem Number.isNumeric {longest : Nat} {value : Value} (h : Number longest value (text ++ []) []) :
    ∀ c ∈ text, isNumeric c = true := by
  obtain ⟨piece, heq, hpiece⟩ := h.passes
  rwa [List.append_cancel_right heq]

theorem Number.not_mem {longest : Nat} {value : Value} {c : Char}
    (h : Number longest value (text ++ []) []) (hc : Json.isNumeric c = false) : c ∉ text := by
  intro hmem
  rw [h.isNumeric c hmem] at hc
  cases hc

end Passing

end Json

end GridQuery
