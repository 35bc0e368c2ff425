import GridQuery.Text.Wildcard
import Mathlib

/-!
# What wildcards match

`Fits` gives wildcards their meaning: each of them takes a part of the text.  Matching decides it, and a
literal pattern between two `%` fits the texts that contain what it was made of, Latin letters in either
case.
-/

namespace GridQuery.Text

section Letters
variable {c d : Char} {text : List Char}

/-- Folding the case of Latin letters leaves every other character as it is, and makes no other one. -/
theorem toLower_eq_iff (h : d.isAlpha = false) : c.toLower = d ↔ c = d := by
  constructor
  · intro heq
    have hupper : ¬ c.isUpper := by
      intro hupper
      have halpha : c.toLower.isAlpha = true := by
        rw [Char.isAlpha_toLower_eq_isAlpha, Char.isAlpha, hupper, Bool.true_or]
      rw [heq, h] at halpha
      cases halpha
    rw [← Char.toLower_eq_of_not_isUpper hupper, heq]
  · rintro rfl
    apply Char.toLower_eq_of_not_isUpper
    rw [Char.isAlpha, Bool.or_eq_false_iff] at h
    rw [h.1]
    exact Bool.false_ne_true

theorem asciiLower_asciiLower (text : List Char) : asciiLower (asciiLower text) = asciiLower text := by
  simp [asciiLower]

theorem mem_asciiLower_iff (h : d.isAlpha = false) : d ∈ asciiLower text ↔ d ∈ text := by
  simp only [asciiLower, List.mem_map, toLower_eq_iff h, exists_eq_right]

end Letters

theorem beforeNul_eq_self {text : List Char} (h : '\x00' ∉ text) : beforeNul text = text := by
  rw [beforeNul, List.takeWhile_eq_self_iff]
  intro c hc
  rw [bne_iff_ne]
  rintro rfl
  exact h hc

namespace Wildcard
/-- Wildcards match a text, each of them a part of it. -/
inductive Fits : List Wildcard → List Char → Prop
  | nil : Fits [] []
  | anyText {wildcards text} (passed : List Char) (h : Fits wildcards text) :
      Fits (anyText :: wildcards) (passed ++ text)
  | anyChar {wildcards text} (c : Char) (h : Fits wildcards text) :
      Fits (anyChar :: wildcards) (c :: text)
  | char {wildcards text} {c d : Char} (heq : c.toLower = d.toLower) (h : Fits wildcards text) :
      Fits (char c :: wildcards) (d :: text)

variable {wildcards rest : List Wildcard} {text needle : List Char} {holds : List Char → Bool} {c : Char}

theorem someEnd_iff : someEnd holds text = true ↔ ∃ passed behind, text = passed ++ behind ∧ holds behind := by
  induction text with
  | nil => simp [someEnd]
  | cons c text ih =>
    rw [someEnd, Bool.or_eq_true, ih]
    constructor
    · rintro (h | ⟨passed, behind, rfl, h⟩)
      · exact ⟨[], c :: text, rfl, h⟩
      · exact ⟨c :: passed, behind, rfl, h⟩
    · rintro ⟨passed, behind, heq, h⟩
      cases passed with
      | nil => exact .inl (heq ▸ h)
      | cons d passed =>
        obtain ⟨-, rfl⟩ := List.cons.inj heq
        exact .inr ⟨passed, behind, rfl, h⟩

/-- Matching tries every end of the text for `%`, and so decides what wildcards mean. -/
theorem covers_iff_fits : covers wildcards text = true ↔ Fits wildcards text := by
  induction wildcards generalizing text with
  | nil =>
    rw [covers, List.isEmpty_iff]
    constructor
    · rintro rfl
      exact .nil
    · intro h
      cases h
      rfl
  | cons wildcard wildcards ih =>
    cases wildcard with
    | anyText =>
      rw [covers, someEnd_iff]
      constructor
      · rintro ⟨passed, behind, rfl, h⟩
        exact .anyText passed (ih.mp h)
      · intro h
        cases h with
        | anyText passed h => exact ⟨passed, _, rfl, ih.mpr h⟩
    | anyChar =>
      cases text with
      | nil => exact iff_of_false Bool.false_ne_true nofun
      | cons c text =>
        rw [covers, ih]
        constructor
        · exact .anyChar c
        · intro h
          cases h with
          | anyChar _ h => exact h
    | char c =>
      cases text with
      | nil => exact iff_of_false Bool.false_ne_true nofun
      | cons d text =>
        rw [covers, Bool.and_eq_true, beq_iff_eq, ih]
        constructor
        · exact fun h => .char h.1 h.2
        · intro h
          cases h with
          | char heq h => exact ⟨heq, h⟩

theorem fits_chars_iff : Fits (needle.map char ++ rest) text ↔
    ∃ middle behind, text = middle ++ behind ∧ asciiLower middle = asciiLower needle ∧ Fits rest behind := by
  induction needle generalizing text with
  | nil => simp [asciiLower]
  | cons c needle ih =>
    rw [List.map_cons, List.cons_append]
    constructor
    · intro h
      cases h with
      | @char _ _ _ d heq h =>
        obtain ⟨middle, behind, rfl, hsame, hrest⟩ := ih.mp h
        refine ⟨d :: middle, behind, rfl, ?_, hrest⟩
        rw [asciiLower, asciiLower, List.map_cons, List.map_cons, ← heq]
        exact congrArg _ hsame
    · rintro ⟨middle, behind, rfl, hsame, hrest⟩
      cases middle with
      | nil => cases hsame
      | cons d middle =>
        obtain ⟨heq, hsame⟩ := List.cons.inj hsame
        exact .char heq.symm (ih.mpr ⟨middle, behind, rfl, hsame, hrest⟩)

theorem fits_containing_iff : Fits (anyText :: needle.map char ++ [anyText]) text ↔
    asciiLower needle <:+: asciiLower text := by
  constructor
  · intro h
    cases h with
    | anyText front h =>
      obtain ⟨middle, back, rfl, hsame, -⟩ := fits_chars_iff.mp h
      refine ⟨asciiLower front, asciiLower back, ?_⟩
      rw [← hsame, asciiLower, asciiLower, asciiLower, asciiLower, List.map_append, List.map_append,
        List.append_assoc]
  · rintro ⟨before, after, heq⟩
    obtain ⟨front, back, rfl, hfront, -⟩ := List.map_eq_append_iff.mp heq.symm
    obtain ⟨front, middle, rfl, -, hmiddle⟩ := List.map_eq_append_iff.mp hfront
    have hback : Fits [anyText] back := by
      have h := Fits.anyText back Fits.nil
      rwa [List.append_nil] at h
    rw [List.append_assoc]
    exact .anyText front (fits_chars_iff.mpr ⟨middle, back, rfl, hmiddle, hback⟩)

section Reading
variable {escape : Char} {pattern : List Char}

theorem read?_cons (hc : c ≠ escape) (hne : pattern ≠ []) :
    read? escape (c :: pattern) = (read? escape pattern).map (read?.plain c :: ·) := by
  cases pattern with
  | nil => exact absurd rfl hne
  | cons d pattern => rw [read?, if_neg hc]

/-- What is written as a literal is read as characters that stand for themselves. -/
theorem read?_literal (hne : pattern ≠ []) :
    read? escape (literal escape text ++ pattern) = (read? escape pattern).map (text.map char ++ ·) := by
  induction text with
  | nil => simp [literal]
  | cons c text ih =>
    have hrest : literal escape text ++ pattern ≠ [] := fun h => hne (List.append_eq_nil_iff.mp h).2
    have hcons : literal escape (c :: text) ++ pattern =
        (if c = escape ∨ c = '%' ∨ c = '_' then [escape, c] else [c]) ++ (literal escape text ++ pattern) := by
      rw [literal, List.flatMap_cons, List.append_assoc]
      rfl
    have hmap (wildcards : Option (List Wildcard)) : (wildcards.map (text.map char ++ ·)).map (char c :: ·) =
        wildcards.map ((c :: text).map char ++ ·) := by
      rw [Option.map_map]
      rfl
    rw [hcons, ← hmap, ← ih]
    by_cases hspecial : c = escape ∨ c = '%' ∨ c = '_'
    · rw [if_pos hspecial, List.cons_append, List.singleton_append, read?, if_pos rfl]
    · obtain ⟨hescape, hpercent, hunderscore⟩ := not_or.mp hspecial |>.imp_right not_or.mp
      have hplain : read?.plain c = char c := by
        rw [read?.plain, if_neg hpercent, if_neg hunderscore]
      rw [if_neg hspecial, List.singleton_append, read?_cons hescape hrest, hplain]

end Reading

end Wildcard

theorem asciiLower_literal {escape : Char} (h : escape.isAlpha = false) (text : List Char) :
    asciiLower (literal escape text) = literal escape (asciiLower text) := by
  have hescape : escape.toLower = escape := (toLower_eq_iff h).mpr rfl
  have hpercent : ('%' : Char).isAlpha = false := by decide
  have hunderscore : ('_' : Char).isAlpha = false := by decide
  induction text with
  | nil => rfl
  | cons c text ih =>
    have hspecial : (c.toLower = escape ∨ c.toLower = '%' ∨ c.toLower = '_') ↔
        (c = escape ∨ c = '%' ∨ c = '_') := by
      rw [toLower_eq_iff h, toLower_eq_iff hpercent, toLower_eq_iff hunderscore]
    simp only [literal, asciiLower, List.flatMap_cons, List.map_append, List.map_cons] at ih ⊢
    rw [ih]
    by_cases hc : c = escape ∨ c = '%' ∨ c = '_'
    · rw [if_pos hc, if_pos (hspecial.mpr hc), List.map_cons, List.map_singleton, hescape]
    · rw [if_neg hc, if_neg (mt hspecial.mp hc), List.map_singleton]

theorem not_mem_literal {escape c : Char} {text : List Char} (hescape : c ≠ escape) (h : c ∉ text) :
    c ∉ literal escape text := by
  rw [literal, List.mem_flatMap]
  rintro ⟨d, hd, hmem⟩
  have hne : c ≠ d := fun heq => h (heq ▸ hd)
  split at hmem
  · simp [hescape, hne] at hmem
  · simp [hne] at hmem

/-- A text is like the pattern of a literal between two `%` if it contains the literal's text, with Latin
letters in either case. -/
theorem isLike_containing_iff {escape : Char} {needle text : List Char} (hpercent : escape ≠ '%')
    (hescape : '\x00' ≠ escape) (hneedle : '\x00' ∉ needle) (htext : '\x00' ∉ text) :
    isLike escape (containing (literal escape needle)) text = true ↔
      asciiLower needle <:+: asciiLower text := by
  have hpattern : '\x00' ∉ containing (literal escape needle) := by
    simp [containing, not_mem_literal hescape hneedle]
  have hread : Wildcard.read? escape (containing (literal escape needle)) =
      some (.anyText :: needle.map .char ++ [.anyText]) := by
    rw [containing, List.cons_append, Wildcard.read?_cons (Ne.symm hpercent) (by simp),
      Wildcard.read?_literal (by simp), Wildcard.read?, if_neg (Ne.symm hpercent)]
    rfl
  rw [isLike, beforeNul_eq_self hpattern, beforeNul_eq_self htext, hread, Option.any_some,
    Wildcard.covers_iff_fits, Wildcard.fits_containing_iff]

end GridQuery.Text
