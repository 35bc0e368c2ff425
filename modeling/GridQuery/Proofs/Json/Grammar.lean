import GridQuery.Proofs.Steps
import GridQuery.Json.Reader
import Mathlib.Data.List.TakeWhile

/-!
# The parts of a JSON text

White space, quoted texts and numbers, each with what stands behind it.  The readers take what the grammar
says, and nothing else; only a whole number can be too long for them.
-/

namespace GridQuery.Json

def Spaces (text rest : List Char) : Prop := ∃ blank, text = blank ++ rest ∧ ∀ c ∈ blank, isSpace c

/-- The units of a text up to its closing quote, with a rest behind it. -/
inductive Quoted : List Nat → (text rest : List Char) → Prop
  | close {rest} : Quoted [] ('"' :: rest) rest
  | plain {c units text rest} (control : ¬ c.toNat < 0x20) (quote : c ≠ '"') (escape : c ≠ '\\')
      (more : Quoted units text rest) : Quoted (c.toNat :: units) (c :: text) rest
  | short {c unit units text rest} (escape : shortEscape? c = some unit)
      (more : Quoted units text rest) : Quoted (unit :: units) ('\\' :: c :: text) rest
  | hex {a b c d unit units text rest} (digits : hexUnit? a b c d = some unit)
      (more : Quoted units text rest) :
      Quoted (unit :: units) ('\\' :: 'u' :: a :: b :: c :: d :: text) rest

/-- Some digits, at least one, with a rest behind them. -/
structure Digits (digits text rest : List Char) : Prop where
  split : text = digits ++ rest
  nonempty : digits ≠ []
  all : ∀ c ∈ digits, Text.isAsciiDigit c

def ofChars (digits : List Char) : Nat := Text.ofDigits (digits.filterMap Text.asciiDigit?)

/-- The digits of a whole number: a zero stands alone. -/
structure Whole (digits text rest : List Char) : Prop extends Digits digits text rest where
  zero : digits.head? = some '0' → digits = ['0']

/-- The digits behind a point, if there is one. -/
inductive Fraction : (digits text rest : List Char) → Prop
  | absent {rest} : Fraction [] rest rest
  | point {digits text rest} (h : Digits digits text rest) : Fraction digits ('.' :: text) rest

/-- The sign of a power, if there is one. -/
inductive Sign : Int → (text rest : List Char) → Prop
  | absent {rest} : Sign 1 rest rest
  | plus {rest} : Sign 1 ('+' :: rest) rest
  | minus {rest} : Sign (-1) ('-' :: rest) rest

/-- A power of ten behind an `e`, if there is one. -/
inductive Exponent : Option Int → (text rest : List Char) → Prop
  | absent {rest} : Exponent none rest rest
  | power {e sign digits text middle rest} (he : e = 'e' ∨ e = 'E') (hsign : Sign sign text middle)
      (h : Digits digits middle rest) : Exponent (some (sign * ofChars digits)) (e :: text) rest

/-- A number without its sign: a whole one with at most so many digits, or a double. -/
inductive Unsigned (longest : Nat) (negative : Bool) : Value → (text rest : List Char) → Prop
  | int {digits text rest} (whole : Whole digits text rest) (short : digits.length ≤ longest) :
      Unsigned longest negative (.int (if negative then -ofChars digits else ofChars digits)) text rest
  | real {digits fraction power text middle tail rest} (whole : Whole digits text middle)
      (behind : Fraction fraction middle tail) (exponent : Exponent power tail rest)
      (broken : fraction ≠ [] ∨ power.isSome) :
      Unsigned longest negative (.real (.signed negative (Decimal.nearest
        ⟨ofChars (digits ++ fraction), power.getD 0 - fraction.length⟩))) text rest

inductive Number (longest : Nat) : Value → (text rest : List Char) → Prop
  | positive {value text rest} (h : Unsigned longest false value text rest) :
      Number longest value text rest
  | negative {value text rest} (h : Unsigned longest true value text rest) :
      Number longest value ('-' :: text) rest
  | infinity {rest} : Number longest (.real (.signed false .infinity))
      ('I' :: 'n' :: 'f' :: 'i' :: 'n' :: 'i' :: 't' :: 'y' :: rest) rest
  | negativeInfinity {rest} : Number longest (.real (.signed true .infinity))
      ('-' :: 'I' :: 'n' :: 'f' :: 'i' :: 'n' :: 'i' :: 't' :: 'y' :: rest) rest

/-- What stands behind a number does not go on with it. -/
def Ends (rest : List Char) : Prop :=
  ∀ c ∈ rest.head?, ¬ Text.isAsciiDigit c ∧ c ≠ '.' ∧ c ≠ 'e' ∧ c ≠ 'E'

/-- A text is given up for its size, and not for what it says. -/
def ReadError.IsLimit : ReadError → Prop
  | .longNumber _ | .tooDeep _ => True
  | .malformed | .unpaired => False

/-- A reading finds what is there, or gives up for a limit that what is there does not keep. -/
def Finds {α : Type} (kept : Prop) (read : Except ReadError α) (found : α) : Prop :=
  read = .ok found ∨ ¬ kept ∧ ∃ fault, read = .error fault ∧ fault.IsLimit

namespace Finds
variable {α β : Type} {kept : Prop} {read : Except ReadError α} {found : α}

theorem mono {less : Prop} (h : Finds kept read found) (hkept : less → kept) :
    Finds less read found :=
  h.imp_right fun ⟨hnot, hfault⟩ => ⟨mt hkept hnot, hfault⟩

theorem bind {f : α → Except ReadError β} {out : β} (h : Finds kept read found)
    (hf : read = .ok found → Finds kept (f found) out) : Finds kept (read >>= f) out := by
  rcases h with hread | ⟨hkept, fault, hread, hfault⟩
  · have hrest := hf hread
    rwa [← show (read >>= f) = f found by rw [hread]; rfl] at hrest
  · exact .inr ⟨hkept, fault, by rw [hread]; rfl, hfault⟩

theorem map (f : α → β) (h : Finds kept read found) : Finds kept (read.map f) (f found) := by
  rcases h with hread | ⟨hkept, fault, hread, hfault⟩
  · exact .inl (by rw [hread]; rfl)
  · exact .inr ⟨hkept, fault, by rw [hread]; rfl, hfault⟩

theorem tooDeep {array : Bool} (h : ¬ kept) : Finds kept (.error (.tooDeep array)) found :=
  .inr ⟨h, _, rfl, trivial⟩

end Finds

section Leaves
variable {text rest : List Char} {c : Char} {units : List Nat}

theorem spaces_skipSpace (text : List Char) : Spaces text (skipSpace text) :=
  ⟨text.takeWhile isSpace, (List.takeWhile_append_dropWhile ..).symm, fun _ => List.mem_takeWhile_imp⟩

theorem Spaces.skipSpace_eq (h : Spaces text rest) (hrest : ∀ c ∈ rest.head?, isSpace c = false) :
    skipSpace text = rest := by
  obtain ⟨blank, rfl, hblank⟩ := h
  rw [skipSpace, List.dropWhile_append_of_pos hblank]
  cases rest with
  | nil => rfl
  | cons c rest => exact List.dropWhile_cons_of_neg (by simp [hrest c rfl])

theorem prepend_eq_ok_iff {unit : Option Nat} {read : Except ReadError (List Nat × List Char)} :
    prepend unit read = .ok (units, rest) ↔
      ∃ first more, unit = some first ∧ units = first :: more ∧ read = .ok (more, rest) := by
  cases unit with
  | none => simp [prepend]
  | some first =>
    simp only [prepend, Steps.map_eq_ok_iff]
    constructor
    · rintro ⟨⟨more, tail⟩, hread, heq⟩
      cases heq
      exact ⟨first, more, rfl, rfl, hread⟩
    · rintro ⟨_, more, hfirst, rfl, hread⟩
      cases hfirst
      exact ⟨(more, rest), hread, rfl⟩

theorem readUnits_eq_ok_iff : readUnits text = .ok (units, rest) ↔ Quoted units text rest := by
  constructor
  · intro h
    induction text using readUnits.induct generalizing units with
    | case1 => cases h
    | case2 tail =>
      cases h
      exact .close
    | case3 a b c d tail ih =>
      obtain ⟨first, more, hfirst, rfl, hread⟩ := prepend_eq_ok_iff.mp h
      exact .hex hfirst (ih hread)
    | case4 c tail hhex ih =>
      rw [readUnits] at h
      · obtain ⟨first, more, hfirst, rfl, hread⟩ := prepend_eq_ok_iff.mp h
        exact .short hfirst (ih hread)
      · exact hhex
    | case5 c tail hquote hhex hescape ih =>
      rw [readUnits] at h
      · obtain ⟨first, more, hfirst, rfl, hread⟩ := prepend_eq_ok_iff.mp h
        split at hfirst
        · cases hfirst
        · rename_i hplain
          obtain ⟨hcontrol, hslash⟩ := not_or.mp hplain
          cases hfirst
          exact .plain hcontrol hquote hslash (ih hread)
      all_goals assumption
  · intro h
    induction h with
    | close => rfl
    | plain control quote escape more ih =>
      rw [readUnits]
      · exact prepend_eq_ok_iff.mpr ⟨_, _, if_neg (by simp [control, escape]), rfl, ih⟩
      all_goals simp_all
    | short escape more ih =>
      rw [readUnits]
      · exact prepend_eq_ok_iff.mpr ⟨_, _, escape, rfl, ih⟩
      · rintro a b c d tail rfl
        cases escape
    | hex digits more ih =>
      rw [readUnits]
      exact prepend_eq_ok_iff.mpr ⟨_, _, digits, rfl, ih⟩

/-- A quoted text up to its closing quote, where `lone` stands for half of a pair. -/
def QuotedText (lone : Option Char) (s : String) (text rest : List Char) : Prop :=
  ∃ units, Quoted units text rest ∧ joinUnits lone units = some s.toList

theorem joinUnits_of_none {lone : Option Char} {chars : List Char} (h : joinUnits none units = some chars) :
    joinUnits lone units = some chars := by
  have hchar {unit : Nat} {c : Char} (h : unitChar? none unit = some c) : unitChar? lone unit = some c := by
    unfold unitChar? at h ⊢
    split at h
    · cases h
    · rwa [if_neg ‹_›]
  induction units using joinUnits.induct generalizing chars with
  | case1 high low rest hpair ih =>
    rw [joinUnits, if_pos hpair, Option.map_eq_some_iff] at h
    obtain ⟨chars, hrest, rfl⟩ := h
    rw [joinUnits, if_pos hpair, ih hrest]
    rfl
  | case2 high low rest hpair ih =>
    rw [joinUnits, if_neg hpair] at h
    obtain ⟨c, hc, h⟩ := Option.bind_eq_some_iff.mp h
    obtain ⟨chars, hrest, rfl⟩ := Option.map_eq_some_iff.mp h
    rw [joinUnits, if_neg hpair, hchar hc, Option.bind_some, ih hrest]
    rfl
  | case3 unit =>
    rw [joinUnits, Option.map_eq_some_iff] at h
    obtain ⟨c, hc, rfl⟩ := h
    rw [joinUnits, hchar hc]
    rfl
  | case4 => exact h

theorem QuotedText.of_none {s : String} (lone : Option Char) (h : QuotedText none s text rest) :
    QuotedText lone s text rest := by
  obtain ⟨units, hquoted, hjoined⟩ := h
  exact ⟨units, hquoted, joinUnits_of_none hjoined⟩

theorem readText_eq_ok_iff {lone : Option Char} {s : String} :
    readText lone text = .ok (s, rest) ↔ QuotedText lone s text rest := by
  constructor
  · intro h
    obtain ⟨⟨units, tail⟩, hread, h⟩ := Steps.bind_eq_ok_iff.mp h
    dsimp only at h
    split at h
    · cases h
      exact ⟨units, readUnits_eq_ok_iff.mp hread, by rwa [String.toList_ofList]⟩
    · cases h
  · rintro ⟨units, hquoted, hjoined⟩
    rw [readText, readUnits_eq_ok_iff.mpr hquoted]
    simp only [bind, Except.bind, hjoined, String.ofList_toList]
    rfl

end Leaves

section Numbers
variable {longest : Nat} {negative : Bool} {value : Value}
  {digits fraction text middle rest : List Char}
  {power : Option Int}

theorem digits_digitsOf (text : List Char) (h : digitsOf text ≠ []) :
    Digits (digitsOf text) text (text.drop (digitsOf text).length) where
  split := (List.prefix_iff_eq_append.mp (List.takeWhile_prefix _)).symm
  nonempty := h
  all := fun _ => List.mem_takeWhile_imp

theorem Digits.digitsOf_eq (h : Digits digits text rest)
    (hrest : ∀ c ∈ rest.head?, ¬ Text.isAsciiDigit c) : digitsOf text = digits := by
  rw [h.split, digitsOf, List.takeWhile_append_of_pos h.all]
  cases rest with
  | nil => simp
  | cons c rest => simp [hrest c rfl]

theorem Digits.drop_eq (h : Digits digits text rest) : text.drop digits.length = rest := by
  rw [h.split, List.drop_left]

theorem Digits.head_isAsciiDigit (h : Digits digits text rest) :
    ∃ c more, text = c :: more ∧ Text.isAsciiDigit c := by
  obtain ⟨rfl, hnonempty, hall⟩ := h
  cases digits with
  | nil => exact absurd rfl hnonempty
  | cons c digits => exact ⟨c, digits ++ rest, rfl, hall c List.mem_cons_self⟩

theorem fraction_fractionOf (text : List Char) :
    Fraction (fractionOf text) text
      (if (fractionOf text).isEmpty then text else text.drop ((fractionOf text).length + 1)) := by
  unfold fractionOf
  split
  · rename_i tail
    cases hdigits : digitsOf tail with
    | nil => exact .absent
    | cons d digits =>
      have h := digits_digitsOf tail (by simp [hdigits])
      rw [hdigits] at h
      exact .point h
  · exact .absent

theorem Fraction.fractionOf_eq (h : Fraction fraction text rest)
    (hrest : ∀ c ∈ rest.head?, ¬ Text.isAsciiDigit c ∧ c ≠ '.') : fractionOf text = fraction := by
  cases h with
  | absent =>
    unfold fractionOf
    split
    · exact absurd rfl (hrest '.' rfl).2
    · rfl
  | point h => exact h.digitsOf_eq fun c hc => (hrest c hc).1

/-- The sign in front of a power, how many characters it and the `e` take, and what is behind. -/
def signOf (text : List Char) : Int × Nat × List Char :=
  match text with
  | '-' :: rest => (-1, 2, rest)
  | '+' :: rest => (1, 2, rest)
  | rest => (1, 1, rest)

theorem sign_signOf (text : List Char) : Sign (signOf text).1 text (signOf text).2.2 := by
  unfold signOf
  split
  · exact .minus
  · exact .plus
  · exact .absent

theorem drop_signOf (e : Char) (text : List Char) :
    (e :: text).drop (signOf text).2.1 = (signOf text).2.2 := by
  unfold signOf
  split <;> rfl

theorem Sign.signOf_eq {sign : Int} (h : Sign sign text rest)
    (hrest : rest.head? ≠ some '-' ∧ rest.head? ≠ some '+') :
    (signOf text).1 = sign ∧ (signOf text).2.2 = rest := by
  cases h with
  | absent =>
    unfold signOf
    split
    · exact absurd rfl hrest.1
    · exact absurd rfl hrest.2
    · exact ⟨rfl, rfl⟩
  | plus => exact ⟨rfl, rfl⟩
  | minus => exact ⟨rfl, rfl⟩

theorem exponentOf_cons {e : Char} (he : e = 'e' ∨ e = 'E') (text : List Char) :
    exponentOf (e :: text) =
      if (digitsOf (signOf text).2.2).isEmpty then none
      else some ((signOf text).1 * ofChars (digitsOf (signOf text).2.2),
        (signOf text).2.1 + (digitsOf (signOf text).2.2).length) := by
  simp only [exponentOf, if_pos he]
  rfl

theorem exponentOf_of_not {e : Char} (he : ¬ (e = 'e' ∨ e = 'E')) (text : List Char) :
    exponentOf (e :: text) = none := by
  simp only [exponentOf, if_neg he]

theorem exponent_exponentOf (text : List Char) :
    Exponent ((exponentOf text).map (·.1)) text (text.drop ((exponentOf text).getD (0, 0)).2) := by
  cases text with
  | nil => exact .absent
  | cons e text =>
    by_cases he : e = 'e' ∨ e = 'E'
    · rw [exponentOf_cons he]
      split
      · exact .absent
      · rename_i hdigits
        have hdigits := digits_digitsOf (signOf text).2.2 (by simpa using hdigits)
        rw [← drop_signOf e, List.drop_drop] at hdigits
        rw [drop_signOf] at hdigits
        exact .power he (sign_signOf text) hdigits
    · rw [exponentOf_of_not he]
      exact .absent

theorem Exponent.exponentOf_eq (h : Exponent power text rest)
    (hrest : ∀ c ∈ rest.head?, ¬ Text.isAsciiDigit c ∧ c ≠ 'e' ∧ c ≠ 'E') :
    (exponentOf text).map (·.1) = power ∧ text.drop ((exponentOf text).getD (0, 0)).2 = rest := by
  cases h with
  | absent =>
    cases text with
    | nil => exact ⟨rfl, rfl⟩
    | cons c text =>
      obtain ⟨_, he, hE⟩ := hrest c rfl
      rw [exponentOf_of_not (not_or.mpr ⟨he, hE⟩)]
      exact ⟨rfl, rfl⟩
  | power he hsign h =>
    obtain ⟨c, more, rfl, hc⟩ := h.head_isAsciiDigit
    have hunsigned : ∀ sign, Text.isAsciiDigit sign = false → (c :: more).head? ≠ some sign := by
      rintro sign hsign ⟨⟩
      rw [hsign] at hc
      cases hc
    obtain ⟨hsign, hbehind⟩ := hsign.signOf_eq ⟨hunsigned '-' rfl, hunsigned '+' rfl⟩
    rw [exponentOf_cons he, hbehind, h.digitsOf_eq fun c hc => (hrest c hc).1,
      if_neg (by simpa using h.nonempty), hsign]
    refine ⟨rfl, ?_⟩
    rw [Option.getD_some, ← List.drop_drop, drop_signOf, hbehind, h.drop_eq]

def wholeOf (text : List Char) : List Char :=
  match text with
  | '0' :: _ => ['0']
  | text => digitsOf text

theorem wholeOf_cases (text : List Char) :
    (∃ tail, text = '0' :: tail ∧ wholeOf text = ['0']) ∨
      text.head? ≠ some '0' ∧ wholeOf text = digitsOf text := by
  unfold wholeOf
  split
  · exact .inl ⟨_, rfl, rfl⟩
  · rename_i hzero
    refine .inr ⟨fun hhead => ?_, rfl⟩
    obtain ⟨tail, htail⟩ := List.head?_eq_some_iff.mp hhead
    exact hzero tail htail

theorem whole_wholeOf (text : List Char) (h : wholeOf text ≠ []) :
    Whole (wholeOf text) text (text.drop (wholeOf text).length) := by
  rcases wholeOf_cases text with ⟨tail, rfl, hwhole⟩ | ⟨hhead, hwhole⟩
  · rw [hwhole]
    refine ⟨⟨rfl, by simp, ?_⟩, fun _ => rfl⟩
    rintro c hc
    rw [List.mem_singleton.mp hc]
    rfl
  · rw [hwhole] at h ⊢
    have hdigits := digits_digitsOf text h
    refine ⟨hdigits, fun hzero => absurd ?_ hhead⟩
    obtain ⟨more, hmore⟩ := List.head?_eq_some_iff.mp hzero
    rw [hdigits.split, hmore]
    rfl

theorem Whole.wholeOf_eq (h : Whole digits text rest)
    (hrest : ∀ c ∈ rest.head?, ¬ Text.isAsciiDigit c) : wholeOf text = digits := by
  rcases wholeOf_cases text with ⟨tail, htext, hwhole⟩ | ⟨_, hwhole⟩
  · rw [hwhole]
    refine (h.zero ?_).symm
    have hsplit := h.split
    cases digits with
    | nil => exact absurd rfl h.nonempty
    | cons d digits =>
      rw [htext, List.cons_append] at hsplit
      rw [(List.cons.inj hsplit).1]
      rfl
  · rw [hwhole, h.digitsOf_eq hrest]

theorem readUnsigned_eq {whole fraction tail : List Char} (hwhole : wholeOf text = whole)
    (hnonempty : whole ≠ []) (hmiddle : text.drop whole.length = middle)
    (hfraction : fractionOf middle = fraction)
    (htail : (if fraction.isEmpty then middle else middle.drop (fraction.length + 1)) = tail) :
    readUnsigned negative text =
      if fraction.isEmpty && (exponentOf tail).isNone then
        if 4300 < whole.length then .error (.longNumber whole.length)
        else .ok (.int (if negative then -ofChars whole else ofChars whole), tail)
      else .ok (.real (.signed negative (Decimal.nearest ⟨ofChars (whole ++ fraction),
          ((exponentOf tail).getD (0, 0)).1 - fraction.length⟩)),
        tail.drop ((exponentOf tail).getD (0, 0)).2) := by
  subst hwhole hmiddle hfraction htail
  have hempty : ¬ (wholeOf text).isEmpty := by simpa using hnonempty
  exact if_neg hempty

theorem getD_map_fst (exponent : Option (Int × Nat)) :
    (exponent.map (·.1)).getD 0 = (exponent.getD (0, 0)).1 := by
  cases exponent <;> rfl

theorem unsigned_of_readUnsigned (h : readUnsigned negative text = .ok (value, rest)) :
    Unsigned 4300 negative value text rest := by
  have hnonempty : wholeOf text ≠ [] := by
    intro hempty
    have hmalformed : readUnsigned negative text = .error .malformed := if_pos (by
      change (wholeOf text).isEmpty
      rw [hempty]
      rfl)
    rw [hmalformed] at h
    cases h
  obtain ⟨middle, hmiddle⟩ : ∃ middle, text.drop (wholeOf text).length = middle := ⟨_, rfl⟩
  obtain ⟨tail, htail⟩ : ∃ tail, (if (fractionOf middle).isEmpty then middle
    else middle.drop ((fractionOf middle).length + 1)) = tail := ⟨_, rfl⟩
  have hwhole : Whole (wholeOf text) text middle := hmiddle ▸ whole_wholeOf text hnonempty
  have hfraction : Fraction (fractionOf middle) middle tail := htail ▸ fraction_fractionOf middle
  rw [readUnsigned_eq rfl hnonempty hmiddle rfl htail] at h
  split at h
  · rename_i hint
    split at h
    · cases h
    · rename_i hshort
      rw [Bool.and_eq_true, List.isEmpty_iff] at hint
      rw [hint.1, List.isEmpty_nil, if_pos rfl] at htail
      cases h
      rw [← htail]
      exact .int hwhole (Nat.le_of_not_lt hshort)
  · rename_i hreal
    cases h
    rw [← getD_map_fst]
    refine .real hwhole hfraction (exponent_exponentOf tail) ?_
    rw [Bool.and_eq_true, not_and_or, List.isEmpty_iff] at hreal
    rwa [Option.isSome_map, ← Option.not_isNone, Bool.not_eq_true', ← Bool.not_eq_true]

theorem Exponent.head_of_ends (h : Exponent power text rest) (hrest : Ends rest) :
    ∀ c ∈ text.head?, ¬ Text.isAsciiDigit c ∧ c ≠ '.' := by
  cases h with
  | absent => exact fun c hc => ⟨(hrest c hc).1, (hrest c hc).2.1⟩
  | power he =>
    rintro c ⟨⟩
    rcases he with rfl | rfl <;> decide

theorem Fraction.head_of_not (h : Fraction fraction text rest)
    (hrest : ∀ c ∈ rest.head?, ¬ Text.isAsciiDigit c) : ∀ c ∈ text.head?, ¬ Text.isAsciiDigit c := by
  cases h with
  | absent => exact hrest
  | point =>
    rintro c ⟨⟩
    decide

theorem Fraction.drop_eq (h : Fraction fraction text rest) :
    (if fraction.isEmpty then text else text.drop (fraction.length + 1)) = rest := by
  cases h with
  | absent => rfl
  | point h => rw [if_neg (by simpa using h.nonempty), List.drop_succ_cons, h.drop_eq]

theorem Unsigned.finds (h : Unsigned longest negative value text rest) (hrest : Ends rest) :
    Finds (longest ≤ 4300) (readUnsigned negative text) (value, rest) := by
  have hpower : ∀ c ∈ rest.head?, ¬ Text.isAsciiDigit c ∧ c ≠ 'e' ∧ c ≠ 'E' :=
    fun c hc => ⟨(hrest c hc).1, (hrest c hc).2.2⟩
  cases h with
  | int whole short =>
    have hwhole := whole.wholeOf_eq fun c hc => (hrest c hc).1
    have hfraction := Fraction.absent.fractionOf_eq fun c hc => ⟨(hrest c hc).1, (hrest c hc).2.1⟩
    obtain ⟨hnone, _⟩ := Exponent.absent.exponentOf_eq hpower
    rw [readUnsigned_eq hwhole whole.nonempty whole.drop_eq hfraction rfl, List.isEmpty_nil,
      if_pos rfl, Bool.true_and, ← Option.isNone_map, hnone, Option.isNone_none, if_pos rfl]
    split
    · exact .inr ⟨by omega, _, rfl, trivial⟩
    · exact .inl rfl
  | real whole behind exponent broken =>
    have htail := exponent.head_of_ends hrest
    have hwhole := whole.wholeOf_eq (behind.head_of_not fun c hc => (htail c hc).1)
    have hfraction := behind.fractionOf_eq htail
    obtain ⟨hpower, hdrop⟩ := exponent.exponentOf_eq hpower
    refine .inl ?_
    rw [readUnsigned_eq hwhole whole.nonempty whole.drop_eq hfraction behind.drop_eq, if_neg,
      ← getD_map_fst, hpower, hdrop]
    rw [Bool.and_eq_true, not_and_or, List.isEmpty_iff, ← Option.isNone_map, hpower,
      Option.isNone_iff_eq_none]
    rwa [Option.isSome_iff_ne_none] at broken

theorem number_of_readNumber (h : readNumber text = .ok (value, rest)) :
    Number 4300 value text rest := by
  unfold readNumber at h
  split at h
  · cases h
    exact .negativeInfinity
  · cases h
    exact .infinity
  · exact .negative (unsigned_of_readUnsigned h)
  · exact .positive (unsigned_of_readUnsigned h)

theorem Unsigned.head_isAsciiDigit (h : Unsigned longest negative value text rest) :
    ∃ c more, text = c :: more ∧ Text.isAsciiDigit c := by
  cases h with
  | int whole => exact whole.head_isAsciiDigit
  | real whole => exact whole.head_isAsciiDigit

theorem ne_of_isAsciiDigit {c other : Char} (hc : Text.isAsciiDigit c)
    (hother : Text.isAsciiDigit other = false) : c ≠ other := by
  rintro rfl
  rw [hother] at hc
  cases hc

theorem readNumber_of_digit {c : Char} (hc : Text.isAsciiDigit c) (text : List Char) :
    readNumber (c :: text) = readUnsigned false (c :: text) ∧
      readNumber ('-' :: c :: text) = readUnsigned true (c :: text) := by
  have hminus : c ≠ '-' := ne_of_isAsciiDigit hc rfl
  have hinfinity : c ≠ 'I' := ne_of_isAsciiDigit hc rfl
  constructor
  · unfold readNumber
    split <;> simp_all
  · unfold readNumber
    split <;> simp_all

theorem Number.finds (h : Number longest value text rest) (hrest : Ends rest) :
    Finds (longest ≤ 4300) (readNumber text) (value, rest) := by
  cases h with
  | positive h =>
    obtain ⟨c, more, rfl, hc⟩ := h.head_isAsciiDigit
    rw [(readNumber_of_digit hc more).1]
    exact h.finds hrest
  | negative h =>
    obtain ⟨c, more, rfl, hc⟩ := h.head_isAsciiDigit
    rw [(readNumber_of_digit hc more).2]
    exact h.finds hrest
  | infinity => exact .inl rfl
  | negativeInfinity => exact .inl rfl

end Numbers

end GridQuery.Json
