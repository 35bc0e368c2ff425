import GridQuery.Proofs.Text.SmallLetters
import GridQuery.Proofs.Text.Wildcard

/-!
# Small letters and the fold of Latin letters

Both put the Latin letters of a text into small ones; the fold leaves all other letters as they are.  What
stands in the small letters of a text stands in its fold too, as long as no other capital of the one is a
letter of the other.
-/

namespace GridQuery.Text

def smallLetters (c : Char) : List Char := if c = 'Σ' then ['σ', 'ς'] else lowerAlone c

/-- A character of the term and one of the text that have a small letter in common are the same one, but
for the case of a Latin letter. -/
def SeenAlike (term text : List Char) : Prop :=
  ∀ c ∈ term, ∀ d ∈ text, (∃ e ∈ smallLetters c, e ∈ smallLetters d) → c.toLower = d.toLower

-- By the lists, since what holds of all characters is otherwise tried with every one of Unicode.
instance (c d : Char) : Decidable (∃ e ∈ smallLetters c, e ∈ smallLetters d) := List.decidableBEx _ _

instance (c : Char) (text : List Char) :
    Decidable (∀ d ∈ text, (∃ e ∈ smallLetters c, e ∈ smallLetters d) → c.toLower = d.toLower) :=
  List.decidableBAll _ _

instance (term text : List Char) : Decidable (SeenAlike term text) := List.decidableBAll _ _

variable {c d e : Char} {before before' after after' term text : List Char}

theorem mem_smallLetters (h : e ∈ lowerAt before c after) : e ∈ smallLetters c := by
  unfold smallLetters
  split
  case isTrue heq =>
    rw [heq, lowerAt_sigma, List.mem_singleton] at h
    rw [h]
    split <;> simp
  case isFalse hne => rwa [lowerAt_of_ne_sigma hne] at h

/-- One capital has two characters for its small letter, and every other character has one. -/
theorem lowerAt_cases (before : List Char) (c : Char) (after : List Char) :
    c = 'İ' ∧ lowerAt before c after = ['i', '\u0307'] ∨
      c ≠ 'İ' ∧ ∃ e, lowerAt before c after = [e] := by
  by_cases hsigma : c = 'Σ'
  · subst hsigma
    exact .inr ⟨by decide, _, lowerAt_sigma before after⟩
  · rw [lowerAt_of_ne_sigma hsigma]
    by_cases hdotted : c = 'İ'
    · subst hdotted
      exact .inl ⟨rfl, by decide⟩
    · have hcode : c.toNat ≠ 0x130 := fun h => hdotted (Char.toNat_inj.mp h)
      refine .inr ⟨hdotted, ?_⟩
      rw [lowerAlone, if_neg hcode]
      split
      · exact ⟨_, rfl⟩
      · exact ⟨_, rfl⟩

theorem exists_lowerAfter_eq_cons (before : List Char) (c : Char) (text : List Char) :
    ∃ e rest, lowerAfter before (c :: text) = e :: rest ∧ e ∈ smallLetters c ∧ (c = 'İ' → e = 'i') := by
  have hmem (e : Char) : e ∈ lowerAt before c text → e ∈ smallLetters c := mem_smallLetters
  rcases lowerAt_cases before c text with ⟨rfl, hsmall⟩ | ⟨hne, e, hsmall⟩
  · refine ⟨'i', '\u0307' :: lowerAfter ('İ' :: before) text, ?_, hmem 'i' ?_, fun _ => rfl⟩
    · rw [lowerAfter, hsmall]
      rfl
    · rw [hsmall]
      exact List.mem_cons_self
  · refine ⟨e, lowerAfter (c :: before) text, ?_, hmem e ?_, fun h => absurd h hne⟩
    · rw [lowerAfter, hsmall]
      rfl
    · rw [hsmall]
      exact List.mem_cons_self

theorem toLower_eq_dotted_iff : c.toLower = 'İ' ↔ c = 'İ' := toLower_eq_iff (by decide)

theorem length_lowerAt_of_toLower (h : c.toLower = d.toLower) (before after before' after' : List Char) :
    (lowerAt before c after).length = (lowerAt before' d after').length := by
  have hdotted : c = 'İ' ↔ d = 'İ' := by rw [← toLower_eq_dotted_iff, h, toLower_eq_dotted_iff]
  rcases lowerAt_cases before c after with ⟨hc, hsmall⟩ | ⟨hc, e, hsmall⟩ <;>
    rcases lowerAt_cases before' d after' with ⟨hd, hsmall'⟩ | ⟨hd, e', hsmall'⟩
  · rw [hsmall, hsmall']
  · exact absurd (hdotted.mp hc) hd
  · exact absurd (hdotted.mpr hd) hc
  · rw [hsmall, hsmall']
    rfl

namespace SeenAlike

theorem tail (alike : SeenAlike term (d :: text)) : SeenAlike term text :=
  fun c hc e he => alike c hc e (List.mem_cons_of_mem d he)

/-- Characters whose small letters begin alike are one but for its case; so they have equally many small
letters, and what follows these begins alike again. -/
theorem prefix_asciiLower (alike : SeenAlike term text)
    (h : lowerAfter before term <+: lowerAfter before' text) : asciiLower term <+: asciiLower text := by
  induction term generalizing before before' text with
  | nil => exact List.nil_prefix
  | cons c term ih =>
    obtain ⟨e, rest, hcons, hmem, -⟩ := exists_lowerAfter_eq_cons before c term
    cases text with
    | nil =>
      rw [hcons] at h
      cases List.prefix_nil.mp h
    | cons d text =>
      have hsame : c.toLower = d.toLower := by
        obtain ⟨e', rest', hcons', hmem', -⟩ := exists_lowerAfter_eq_cons before' d text
        rw [hcons, hcons', List.cons_prefix_cons] at h
        exact alike c List.mem_cons_self d List.mem_cons_self ⟨e, hmem, h.1 ▸ hmem'⟩
      obtain ⟨behind, hbehind⟩ := h
      rw [lowerAfter, lowerAfter, List.append_assoc] at hbehind
      obtain ⟨-, hrest⟩ := List.append_inj hbehind (length_lowerAt_of_toLower hsame ..)
      have hterm : SeenAlike term text := fun f hf => alike.tail f (List.mem_cons_of_mem c hf)
      exact List.cons_prefix_cons.mpr ⟨hsame, ih hterm ⟨behind, hrest⟩⟩

/-- The induction is on the text: a place of the term that does not begin with a character begins behind
all of its small letters, since the second one of a dotted capital begins no small letters. -/
theorem infix_asciiLower (alike : SeenAlike term text) (hne : term ≠ [])
    (h : lower term <:+: lowerAfter before text) : asciiLower term <:+: asciiLower text := by
  obtain ⟨c, term, rfl⟩ := List.exists_cons_of_ne_nil hne
  obtain ⟨first, rest, hfirst, hmem, hdotted⟩ := exists_lowerAfter_eq_cons [] c term
  induction text generalizing before with
  | nil =>
    rw [lower, hfirst] at h
    cases List.infix_nil.mp h
  | cons d text ih =>
    have hbehind (h : lower (c :: term) <:+: lowerAfter (d :: before) text) :
        asciiLower (c :: term) <:+: asciiLower (d :: text) :=
      (ih alike.tail h).trans (List.suffix_cons _ _).isInfix
    rcases lowerAt_cases before d text with ⟨rfl, hsmall⟩ | ⟨-, e, hsmall⟩
    · have hcons : lowerAfter before ('İ' :: text) = 'i' :: '\u0307' :: lowerAfter ('İ' :: before) text := by
        rw [lowerAfter, hsmall]
        rfl
      rw [hcons, List.infix_cons_iff, ← hcons, List.infix_cons_iff] at h
      rcases h with hprefix | hprefix | h
      · exact (alike.prefix_asciiLower hprefix).isInfix
      · have hsecond : first = '\u0307' := by
          rw [lower, hfirst, List.cons_prefix_cons] at hprefix
          exact hprefix.1
        have hboth : ∃ e ∈ smallLetters c, e ∈ smallLetters 'İ' := ⟨first, hmem, by rw [hsecond]; decide⟩
        have hsame := alike c List.mem_cons_self 'İ' List.mem_cons_self hboth
        have hi := hdotted (toLower_eq_dotted_iff.mp hsame)
        exact absurd (hsecond.symm.trans hi) (by decide)
      · exact hbehind h
    · have hcons : lowerAfter before (d :: text) = e :: lowerAfter (d :: before) text := by
        rw [lowerAfter, hsmall]
        rfl
      rw [hcons, List.infix_cons_iff, ← hcons] at h
      rcases h with hprefix | h
      · exact (alike.prefix_asciiLower hprefix).isInfix
      · exact hbehind h

end SeenAlike

end GridQuery.Text
