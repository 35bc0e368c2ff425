import GridQuery.Text.Blank
import Mathlib.Data.List.TakeWhile

/-!
# Trimming

A text is its trimmed part with characters of the class around it, and the trimmed part is the only one
whose ends are not of the class.  So trimming by a class undoes what trimming by a smaller one leaves.
-/

namespace GridQuery.Text

/-- Neither end of a text is of a class. -/
structure Bare (p : Char → Bool) (text : List Char) : Prop where
  first : ∀ c ∈ text.head?, p c = false
  last : ∀ c ∈ text.getLast?, p c = false

variable {p q : Char → Bool} {text front back : List Char}

theorem dropWhile_append_of_head? (h : ∀ c ∈ text.head?, p c = false) (hne : text ≠ [])
    (rest : List Char) : (text ++ rest).dropWhile p = text ++ rest := by
  cases text with
  | nil => exact absurd rfl hne
  | cons c text => exact List.dropWhile_cons_of_neg (by rw [h c rfl]; exact Bool.false_ne_true)

theorem trimBy_surrounded (hfront : ∀ c ∈ front, p c = true) (hback : ∀ c ∈ back, p c = true)
    (h : Bare p text) : trimBy p (front ++ (text ++ back)) = text := by
  unfold trimBy
  rw [List.dropWhile_append_of_pos hfront]
  by_cases hne : text = []
  · subst hne
    rw [List.nil_append, List.dropWhile_eq_nil_iff.mpr hback]
    rfl
  · have hlast : ∀ c ∈ text.reverse.head?, p c = false := by
      intro c hc
      rw [List.head?_reverse] at hc
      exact h.last c hc
    have hback' : ∀ c ∈ back.reverse, p c = true := fun c hc => hback c (List.mem_reverse.mp hc)
    have hne' : text.reverse ≠ [] := fun hnil => hne (List.reverse_eq_nil_iff.mp hnil)
    have hstop := dropWhile_append_of_head? hlast hne' []
    rw [List.append_nil] at hstop
    rw [dropWhile_append_of_head? h.first hne, List.reverse_append,
      List.dropWhile_append_of_pos hback', hstop, List.reverse_reverse]

theorem exists_trimBy (p : Char → Bool) (text : List Char) :
    ∃ front back, text = front ++ (trimBy p text ++ back) ∧
      (∀ c ∈ front, p c = true) ∧ ∀ c ∈ back, p c = true := by
  have hfront := @List.takeWhile_append_dropWhile _ p text
  generalize hrest : text.dropWhile p = rest at hfront
  have hback := @List.takeWhile_append_dropWhile _ p rest.reverse
  refine ⟨text.takeWhile p, (rest.reverse.takeWhile p).reverse, ?_, ?_, ?_⟩
  · rw [trimBy, hrest, ← List.reverse_append, hback, List.reverse_reverse, hfront]
  · exact fun c hc => List.mem_takeWhile_imp hc
  · exact fun c hc => List.mem_takeWhile_imp (List.mem_reverse.mp hc)

theorem head?_dropWhile (p : Char → Bool) (text : List Char) :
    ∀ c ∈ (text.dropWhile p).head?, p c = false := by
  intro c hc
  have hne : text.dropWhile p ≠ [] := by
    intro hnil
    rw [hnil] at hc
    cases hc
  rw [List.head?_eq_some_head hne, Option.mem_some_iff] at hc
  rw [← hc]
  exact List.head_dropWhile_not p hne

theorem bare_trimBy (p : Char → Bool) (text : List Char) : Bare p (trimBy p text) := by
  constructor
  · have hback : text.dropWhile p =
        trimBy p text ++ ((text.dropWhile p).reverse.takeWhile p).reverse := by
      rw [trimBy, ← List.reverse_append, List.takeWhile_append_dropWhile, List.reverse_reverse]
    intro c hc
    refine head?_dropWhile p text c ?_
    rw [hback]
    rw [List.head?_append, Option.mem_def.mp hc]
    rfl
  · intro c hc
    rw [trimBy, List.getLast?_reverse] at hc
    exact head?_dropWhile p _ c hc

theorem trimBy_eq_self_iff : trimBy p text = text ↔ Bare p text := by
  constructor
  · intro h
    rw [← h]
    exact bare_trimBy p text
  · intro h
    have hself : trimBy p ([] ++ (text ++ [])) = text := trimBy_surrounded nofun nofun h
    rwa [List.nil_append, List.append_nil] at hself

theorem trimBy_of_forall (h : ∀ c ∈ text, p c = false) : trimBy p text = text :=
  trimBy_eq_self_iff.mpr
    ⟨fun c hc => h c (List.mem_of_head? hc), fun c hc => h c (List.mem_of_getLast? hc)⟩

theorem trimBy_trimBy (h : ∀ c, p c = true → q c = true) (text : List Char) :
    trimBy q (trimBy p text) = trimBy q text := by
  obtain ⟨front, back, htext, hfront, hback⟩ := exists_trimBy p text
  obtain ⟨before, after, hrest, hbefore, hafter⟩ := exists_trimBy q (trimBy p text)
  have hsplit : text = front ++ before ++ (trimBy q (trimBy p text) ++ (after ++ back)) := by
    calc text = front ++ (trimBy p text ++ back) := htext
      _ = front ++ ((before ++ (trimBy q (trimBy p text) ++ after)) ++ back) := by rw [← hrest]
      _ = _ := by simp only [List.append_assoc]
  rw [congrArg (trimBy q) hsplit]
  refine (trimBy_surrounded ?_ ?_ (bare_trimBy q _)).symm
  · intro c hc
    rcases List.mem_append.mp hc with hc | hc
    · exact h c (hfront c hc)
    · exact hbefore c hc
  · intro c hc
    rcases List.mem_append.mp hc with hc | hc
    · exact hafter c hc
    · exact h c (hback c hc)

theorem isBlank_eq_false {c : Char} (h : 0x20 < c.toNat ∧ c.toNat < 0x80) : isBlank c = false := by
  simp only [isBlank, within, blankRanges, List.any_eq_false, Bool.and_eq_true, decide_eq_true_eq,
    List.mem_cons, List.not_mem_nil, or_false]
  rintro range (rfl | rfl | rfl | rfl | rfl | rfl | rfl | rfl | rfl | rfl) <;> omega

end GridQuery.Text

namespace GridQuery

theorem toList_trimmed (text : String) : (trimmed text).toList = Text.trim text.toList :=
  String.toList_ofList

theorem trimmed_eq_self_iff {text : String} :
    trimmed text = text ↔ Text.Bare Text.isBlank text.toList := by
  rw [← Text.trimBy_eq_self_iff, ← String.toList_inj, toList_trimmed, Text.trim]

theorem trimmed_trimmed (text : String) : trimmed (trimmed text) = trimmed text := by
  rw [trimmed_eq_self_iff, toList_trimmed]
  exact Text.bare_trimBy Text.isBlank text.toList

theorem trimmed_of_visible {text : String}
    (h : ∀ c ∈ text.toList, 0x20 < c.toNat ∧ c.toNat < 0x80) : trimmed text = text := by
  rw [trimmed, Text.trim, Text.trimBy_of_forall fun c hc => Text.isBlank_eq_false (h c hc),
    String.ofList_toList]

end GridQuery
