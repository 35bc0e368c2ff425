import GridQuery.Text.Case

/-!
# Small letters within a text

A part of a text has the small letters that it has alone, but for capital sigmas: whether one stands at
the end of a word may be decided by what stands around the part.  Nothing changes where no letter with
case comes next on either side.
-/

namespace GridQuery.Text

/-- A sigma stands at the end of a word, after the characters `before` (nearest first). -/
def atWordEnd (before after : List Char) : Bool := casedNext before && !casedNext after

/-- The small letters of a text after the characters `before` (nearest first) and before `after`. -/
def lowerBetween (before : List Char) : (text after : List Char) → List Char
  | [], _ => []
  | c :: text, after => lowerAt before c (text ++ after) ++ lowerBetween (c :: before) text after

/-- Every capital sigma of a text stands at the end of a word there if and only if it does so in the
text alone. -/
def KeepsForms (before text after : List Char) : Prop :=
  ∀ front back, text = front ++ 'Σ' :: back →
    atWordEnd (front.reverse ++ before) (back ++ after) = atWordEnd front.reverse back

variable {before after text rest : List Char} {c : Char}

theorem lowerAt_sigma (before after : List Char) :
    lowerAt before 'Σ' after = [if atWordEnd before after then 'ς' else 'σ'] := by
  rw [lowerAt, if_pos (show 'Σ'.toNat = 0x3a3 from rfl), atWordEnd]
  split
  · rfl
  · rfl

theorem lowerAt_of_ne_sigma (h : c ≠ 'Σ') (before after : List Char) :
    lowerAt before c after = lowerAlone c :=
  if_neg fun hcode => h (Char.toNat_inj.mp hcode)

theorem length_lowerAt (before after : List Char) (c : Char) (before' after' : List Char) :
    (lowerAt before c after).length = (lowerAt before' c after').length := by
  by_cases h : c = 'Σ'
  · rw [h, lowerAt_sigma, lowerAt_sigma]
    rfl
  · rw [lowerAt_of_ne_sigma h, lowerAt_of_ne_sigma h]

theorem lowerAt_eq_iff {before' after' : List Char} :
    lowerAt before c after = lowerAt before' c after' ↔
      (c = 'Σ' → atWordEnd before after = atWordEnd before' after') := by
  by_cases h : c = 'Σ'
  · subst h
    rw [lowerAt_sigma, lowerAt_sigma, List.singleton_inj]
    cases atWordEnd before after <;> cases atWordEnd before' after' <;> simp
  · rw [lowerAt_of_ne_sigma h, lowerAt_of_ne_sigma h]
    exact iff_of_true rfl fun heq => absurd heq h

theorem lowerAfter_append (before text after : List Char) :
    lowerAfter before (text ++ after) =
      lowerBetween before text after ++ lowerAfter (text.reverse ++ before) after := by
  induction text generalizing before with
  | nil => rfl
  | cons c text ih =>
    rw [List.cons_append, lowerAfter, ih, lowerBetween, List.append_assoc, List.reverse_cons,
      List.append_assoc, List.singleton_append]

theorem lowerAfter_eq_lowerBetween (before text : List Char) :
    lowerAfter before text = lowerBetween before text [] := by
  have h := lowerAfter_append before text []
  rwa [List.append_nil, lowerAfter, List.append_nil] at h

theorem lower_surrounded (front text back : List Char) :
    lower (front ++ (text ++ back)) = lowerBetween [] front (text ++ back) ++
      (lowerBetween front.reverse text back ++ lowerAfter (text.reverse ++ front.reverse) back) := by
  rw [lower, lowerAfter_append, lowerAfter_append, List.append_nil]

theorem length_lowerBetween (before text after before' after' : List Char) :
    (lowerBetween before text after).length = (lowerBetween before' text after').length := by
  induction text generalizing before before' with
  | nil => rfl
  | cons c text ih =>
    rw [lowerBetween, lowerBetween, List.length_append, List.length_append, ih (c :: before) (c :: before'),
      length_lowerAt before (text ++ after) c before' (text ++ after')]

theorem forall_split_cons_iff {α : Type} {p : List α → List α → Prop} {a b : α} {l : List α} :
    (∀ front back, a :: l = front ++ b :: back → p front back) ↔
      (a = b → p [] l) ∧ ∀ front back, l = front ++ b :: back → p (a :: front) back := by
  constructor
  · intro h
    refine ⟨fun heq => h [] l (by rw [heq]; rfl), fun front back hl => ?_⟩
    exact h (a :: front) back (by rw [hl]; rfl)
  · rintro ⟨hfirst, hrest⟩ front back h
    cases front with
    | nil =>
      obtain ⟨heq, rfl⟩ := List.cons.inj h
      exact hfirst heq
    | cons d front =>
      obtain ⟨rfl, hl⟩ := List.cons.inj h
      exact hrest front back hl

/-- In two contexts a text has the same small letters if each sigma has one form in both. -/
theorem lowerBetween_eq_iff {before' after' : List Char} :
    lowerBetween before text after = lowerBetween before' text after' ↔
      ∀ front back, text = front ++ 'Σ' :: back →
        atWordEnd (front.reverse ++ before) (back ++ after) =
          atWordEnd (front.reverse ++ before') (back ++ after') := by
  induction text generalizing before before' with
  | nil => exact iff_of_true rfl fun front back h => absurd h (by simp)
  | cons c text ih =>
    have hlength := length_lowerAt before (text ++ after) c before' (text ++ after')
    have hsplit : lowerBetween before (c :: text) after = lowerBetween before' (c :: text) after' ↔
        lowerAt before c (text ++ after) = lowerAt before' c (text ++ after') ∧
          lowerBetween (c :: before) text after = lowerBetween (c :: before') text after' := by
      rw [lowerBetween, lowerBetween]
      exact ⟨fun h => List.append_inj h hlength, fun h => by rw [h.1, h.2]⟩
    rw [hsplit, lowerAt_eq_iff, ih, forall_split_cons_iff]
    simp only [List.reverse_nil, List.nil_append, List.reverse_cons, List.append_assoc,
      List.singleton_append]

/-- A part of a text has its own small letters there if its sigmas keep their forms. -/
theorem lowerBetween_eq_lower_iff :
    lowerBetween before text after = lower text ↔ KeepsForms before text after := by
  rw [lower, lowerAfter_eq_lowerBetween, lowerBetween_eq_iff]
  simp only [List.append_nil, KeepsForms]

theorem casedNext_append (h : casedNext rest = false) (text : List Char) :
    casedNext (text ++ rest) = casedNext text := by
  unfold casedNext at h ⊢
  rw [List.dropWhile_append]
  cases hdrop : text.dropWhile (within caseIgnorableRanges) with
  | nil => simpa using h
  | cons c text => rfl

theorem casedNext_blank (rest : List Char) : casedNext (' ' :: rest) = false := by
  have hignored : within caseIgnorableRanges ' ' = false := by decide +kernel
  have hcased : within casedRanges ' ' = false := by decide +kernel
  rw [casedNext, List.dropWhile_cons_of_neg (by rw [hignored]; exact Bool.false_ne_true)]
  exact hcased

/-- Sigmas keep their forms where no letter with case comes next on either side. -/
theorem keepsForms_of_casedNext (hbefore : casedNext before = false) (hafter : casedNext after = false)
    (text : List Char) : KeepsForms before text after := by
  intro front back _
  rw [atWordEnd, atWordEnd, casedNext_append hbefore, casedNext_append hafter]

theorem keepsForms_of_not_mem (h : 'Σ' ∉ text) (before after : List Char) :
    KeepsForms before text after := by
  intro front back heq
  exact absurd (heq ▸ List.mem_append_right front List.mem_cons_self) h

end GridQuery.Text
