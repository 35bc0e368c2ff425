import GridQuery.Number.Reading
import GridQuery.Proofs.Json.Numerals

/-!
# Reading written doubles

The written form of a finite double is a number of JSON, and other readers take such a number for the same
double.  It has a point or a power of ten, so that it is never the text of a whole number.
-/

namespace GridQuery

theorem Text.digitValue?_eq_none {c : Char} (hascii : c.toNat < 0x80) (h : isAsciiDigit c = false) :
    digitValue? c = none := by
  have hzeros : ∀ first ∈ zeros, first = 0x30 ∨ 0x80 ≤ first := by decide
  have hrange : ¬ (48 ≤ c.toNat ∧ c.toNat ≤ 57) := by
    intro hrange
    have hdigit : asciiDigit? c = some (c.toNat - '0'.toNat) := if_pos hrange
    rw [isAsciiDigit, hdigit] at h
    cases h
  rw [digitValue?, List.findSome?_eq_none_iff]
  intro first hfirst
  rw [if_neg]
  rcases hzeros first hfirst with rfl | hfirst
  · omega
  · omega

namespace Json
variable {longest : Nat} {negative : Bool} {x : Double} {text : List Char}

theorem isNumeric_cases {p : Char → Prop} (hdigit : ∀ d < 10, p (Nat.digitChar d))
    (hother : ∀ c ∈ ['.', 'e', 'E', '+', '-', 'I', 'n', 'f', 'i', 't', 'y'], p c) {c : Char}
    (h : isNumeric c = true) : p c := by
  rcases Bool.or_eq_true_iff.mp h with h | h
  · obtain ⟨d, hd, rfl⟩ := Text.exists_digitChar h
    exact hdigit d hd
  · exact hother c (List.contains_iff_mem.mp h)

theorem Unsigned.exists_not_digit {value : Value} (h : Unsigned longest negative value text [])
    (hvalue : value = .real x) : ∃ c ∈ text, c = '.' ∨ c = 'e' ∨ c = 'E' := by
  cases h with
  | int => cases hvalue
  | real whole behind exponent broken =>
    rw [whole.split]
    cases behind with
    | point => exact ⟨'.', by simp, .inl rfl⟩
    | absent =>
      cases exponent with
      | absent => simp at broken
      | @power e _ _ _ _ _ he => exact ⟨e, by simp, .inr he⟩

theorem Number.text_ne_toString (h : Number longest (.real x) text []) (hfinite : x.isFinite) (n : Int) :
    text ≠ (toString n).toList := by
  have hbroken : ∃ c ∈ text, c = '.' ∨ c = 'e' ∨ c = 'E' := by
    cases h with
    | positive h => exact h.exists_not_digit rfl
    | negative h =>
      obtain ⟨c, hc, hkind⟩ := h.exists_not_digit rfl
      exact ⟨c, List.mem_cons_of_mem _ hc, hkind⟩
    | infinity => cases hfinite
    | negativeInfinity => cases hfinite
  intro heq
  obtain ⟨c, hc, hkind⟩ := hbroken
  rw [heq] at hc
  rcases hkind with rfl | rfl | rfl <;> rcases mem_toString hc with h | h <;> cases h

end Json

namespace Numeral
open Json
variable {longest : Nat} {negative : Bool} {x : Double} {text rest middle digits fraction : List Char}
  {power : Option Int}

theorem asciiDigits_eq_self (h : ∀ c ∈ text, isNumeric c = true) : asciiDigits text = text := by
  have hself : ∀ c ∈ text, ((Text.digitValue? c).map Nat.digitChar).getD c = c := by
    intro c hc
    refine isNumeric_cases (p := fun c => ((Text.digitValue? c).map Nat.digitChar).getD c = c)
      (by decide) ?_ (h c hc)
    intro c hc
    have hother : c.toNat < 0x80 ∧ Text.isAsciiDigit c = false := by
      fin_cases hc <;> exact ⟨by decide, rfl⟩
    rw [Text.digitValue?_eq_none hother.1 hother.2]
    rfl
  rw [asciiDigits, List.map_congr_left hself, List.map_id']

theorem dropUnderscores?_eq_self {previous : Char} (hprevious : previous ≠ '_')
    (h : '_' ∉ text) : dropUnderscores? previous text = some text := by
  induction text generalizing previous with
  | nil => rw [dropUnderscores?, if_neg hprevious]
  | cons c text ih =>
    obtain ⟨hc, hrest⟩ := not_or.mp (mt List.mem_cons.mpr h)
    rw [dropUnderscores?, if_neg (Ne.symm hc), if_neg fun h => hprevious h.1, ih (Ne.symm hc) hrest]
    rfl

theorem splitSign_of_digit (h : ∃ c more, text = c :: more ∧ Text.isAsciiDigit c) :
    splitSign text = (false, text) := by
  obtain ⟨c, more, rfl, hc⟩ := h
  unfold splitSign
  split
  · rename_i heq
    exact absurd (List.cons.inj heq).1 (ne_of_isAsciiDigit hc rfl)
  · rename_i heq
    exact absurd (List.cons.inj heq).1 (ne_of_isAsciiDigit hc rfl)
  · rfl

theorem exponent?_of_exponent (h : Exponent power text []) : exponent? text = some (power.getD 0) := by
  cases h with
  | absent => rfl
  | @power e sign digits tail _ _ he hsign hdigits =>
    have hfirst := splitSign_of_digit hdigits.head_isAsciiDigit
    obtain ⟨rfl, hnonempty, hall⟩ := hdigits
    rw [List.append_nil] at hsign hfirst
    have hok : (e = 'e' ∨ e = 'E') ∧ digits ≠ [] ∧ digits.all Text.isAsciiDigit :=
      ⟨he, hnonempty, List.all_eq_true.mpr hall⟩
    cases hsign with
    | plus =>
      simp only [exponent?, splitSign, if_pos hok]
      simp [number, ofChars]
    | minus =>
      simp only [exponent?, splitSign, if_pos hok]
      simp [number, ofChars]
    | absent =>
      simp only [exponent?, hfirst, if_pos hok]
      simp [number, ofChars]

theorem takeWhile_of_digits (h : Digits digits text rest)
    (hrest : ∀ c ∈ rest.head?, ¬ Text.isAsciiDigit c) :
    text.takeWhile Text.isAsciiDigit = digits ∧ text.dropWhile Text.isAsciiDigit = rest := by
  have htake : text.takeWhile Text.isAsciiDigit = digits := h.digitsOf_eq hrest
  refine ⟨htake, ?_⟩
  have hsplit := @List.takeWhile_append_dropWhile _ Text.isAsciiDigit text
  rw [htake, h.split] at hsplit
  rw [h.split]
  exact List.append_cancel_left hsplit

theorem decimal?_of_parts (whole : Whole digits text middle) (behind : Fraction fraction middle rest)
    (exponent : Exponent power rest []) :
    decimal? text = some ⟨ofChars (digits ++ fraction), power.getD 0 - fraction.length⟩ := by
  have hends : ∀ c ∈ rest.head?, ¬ Text.isAsciiDigit c ∧ c ≠ '.' := exponent.head_of_ends nofun
  obtain ⟨htake, hdrop⟩ := takeWhile_of_digits whole.toDigits
    (behind.head_of_not fun c hc => (hends c hc).1)
  have hpower := exponent?_of_exponent exponent
  have hempty : digits.isEmpty = false := by simpa using whole.nonempty
  unfold decimal?
  cases behind with
  | absent =>
    simp only [htake, hdrop]
    split
    · exact absurd rfl (hends '.' rfl).2
    · simp only [hempty, Bool.false_and, hpower, List.append_nil]
      rfl
  | point hfraction =>
    obtain ⟨hfront, hbehind⟩ := takeWhile_of_digits hfraction fun c hc => (hends c hc).1
    simp only [htake, hdrop, hfront, hbehind, hempty, Bool.false_and, hpower]
    rfl

theorem size?_of_unsigned {value : Value} {size : Magnitude}
    (h : Unsigned longest negative value text []) (hvalue : value = .real (.signed negative size)) :
    size? text = some (some size) := by
  obtain ⟨c, more, htext, hc⟩ := h.head_isAsciiDigit
  have hword : ∀ word : String, (∀ d < 10, some (Nat.digitChar d).toLower ≠ word.toList.head?) →
      String.ofList (Text.asciiLower text) ≠ word := by
    rintro _ hhead rfl
    obtain ⟨d, hd, rfl⟩ := Text.exists_digitChar hc
    refine hhead d hd ?_
    rw [String.toList_ofList, htext]
    rfl
  cases h with
  | int => cases hvalue
  | real whole behind exponent =>
    unfold size?
    simp only
    rw [if_neg (not_or.mpr ⟨hword "inf" (by decide), hword "infinity" (by decide)⟩),
      if_neg (hword "nan" (by decide)), decimal?_of_parts whole behind exponent]
    cases hvalue
    rfl

end Numeral

namespace Double
variable {x : Double}

theorem toList_text (h : x.isFinite) : x.text.toList = Json.writeReal x := by
  cases x with
  | nan => cases h
  | signed negative m =>
    have hfinite : m.isFinite := h
    rw [text, Json.writeReal, String.toList_ofList, if_pos hfinite]
    cases negative with
    | false => rfl
    | true => rfl

theorem number_text {longest : Nat} (h : x.isFinite) : Json.Number longest (.real x) x.text.toList [] := by
  have hnumber := @Json.number_writeReal longest x h []
  rwa [List.append_nil, ← toList_text h] at hnumber

theorem text_ne_toString (h : x.isFinite) (n : Int) : x.text ≠ toString n := by
  intro heq
  exact (@number_text x 0 h).text_ne_toString h n (by rw [heq])

theorem isNumeric_text (h : x.isFinite) : ∀ c ∈ x.text.toList, Json.isNumeric c = true := by
  have hnumber := @number_text x 0 h
  rw [← List.append_nil x.text.toList] at hnumber
  exact hnumber.isNumeric

theorem ofText?_text (h : x.isFinite) : ofText? x.text = some x := by
  have hnumeric := isNumeric_text h
  have hunderscore : '_' ∉ x.text.toList := by
    intro hmem
    cases hnumeric '_' hmem
  unfold ofText?
  rw [Numeral.asciiDigits_eq_self hnumeric, Numeral.dropUnderscores?_eq_self (by decide) hunderscore]
  cases x with
  | nan => cases h
  | signed negative m =>
    have hnumber := @Json.unsigned_magnitude 0 negative m h []
    rw [List.append_nil] at hnumber
    have hsize := Numeral.size?_of_unsigned hnumber rfl
    have hsign := Numeral.splitSign_of_digit hnumber.head_isAsciiDigit
    cases negative with
    | false =>
      simp [text, hsign, hsize]
    | true =>
      simp [text, Numeral.splitSign, hsize]

end Double

end GridQuery
