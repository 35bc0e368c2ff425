import GridQuery.Proofs.Lexical
import GridQuery.Proofs.Text.SmallLetters

/-!
# Texts that occur as they are

The operators on the characters of a text compare small letters, and a part of a text has its own small
letters there only if its capital sigmas keep their forms.  A text that a cell begins or ends with as it
is is found there if and only if they do, and one that the cell contains is found if they do in some place.
-/

namespace GridQuery.Residual

section Verbatim
variable {cell : Value} {text needle : String} {registered : List Operator} {front back : List Char}
  {operator : Operator}

/-- An evaluator answers true if its operator finds the text, and false if it does not. -/
theorem evaluate?_eq_some_iff (hregistered : operator ∈ registered) (hevaluable : operator ∈ evaluable)
    (htext : cell.canonicalText? "" = some text) {answer : Bool} :
    evaluate? registered operator cell (.text needle) = some answer ↔
      (answer = true ↔ operator.Finds needle text) := by
  obtain ⟨holds, hholds⟩ := Option.isSome_iff_exists.mp (List.mem_filter.mp hevaluable).2
  have hfinds := @evaluate?_iff_finds operator hevaluable cell needle text htext
  rw [evaluate?, if_pos hevaluable, hholds, Option.map_some, Option.getD_some] at hfinds
  rw [evaluate?, if_pos hregistered, hholds, Option.map_some, Option.some.injEq, ← hfinds]
  cases answer <;> simp

theorem contains_of_keepsForms (htext : text.toList = front ++ (needle.toList ++ back))
    (h : Text.KeepsForms front.reverse needle.toList back) :
    Text.lower needle.toList <:+: Text.lower text.toList := by
  rw [htext, Text.lower_surrounded, Text.lowerBetween_eq_lower_iff.mpr h]
  exact ⟨_, _, List.append_assoc _ _ _⟩

theorem startsWith_iff_keepsForms (htext : text.toList = needle.toList ++ back) :
    Text.lower needle.toList <+: Text.lower text.toList ↔ Text.KeepsForms [] needle.toList back := by
  rw [htext, Text.lower, Text.lower, Text.lowerAfter_append, ← Text.lowerBetween_eq_lower_iff, Text.lower]
  have hlength := Text.length_lowerBetween [] needle.toList [] [] back
  rw [← Text.lowerAfter_eq_lowerBetween] at hlength
  constructor
  · intro h
    exact (List.prefix_of_prefix_length_le h (List.prefix_append _ _) (Nat.le_of_eq hlength)).eq_of_length
      hlength |>.symm
  · intro h
    rw [h]
    exact List.prefix_append _ _

theorem endsWith_iff_keepsForms (htext : text.toList = front ++ needle.toList) :
    Text.lower needle.toList <:+ Text.lower text.toList ↔
      Text.KeepsForms front.reverse needle.toList [] := by
  rw [htext, Text.lower, Text.lower, Text.lowerAfter_append, ← Text.lowerBetween_eq_lower_iff,
    Text.lowerAfter_eq_lowerBetween (front.reverse ++ []), List.append_nil, Text.lower]
  have hlength := Text.length_lowerBetween [] needle.toList [] front.reverse []
  rw [← Text.lowerAfter_eq_lowerBetween] at hlength
  constructor
  · intro h
    exact (List.suffix_of_suffix_length_le h (List.suffix_append _ _) (Nat.le_of_eq hlength)).eq_of_length
      hlength |>.symm
  · intro h
    rw [h]
    exact List.suffix_append _ _

end Verbatim

/-- A text that occurs as it is in the text of a cell is found if its capital sigmas keep their forms in
some place where it occurs; at the beginning and at the end of the cell, only if they do.  They do unless
the text has a capital sigma and a letter with case comes next to it. -/
theorem verbatim_found {cell : Value} {text needle : String} {registered : List Operator}
    (hregistered : ∀ operator ∈ Operator.lexical, operator ∈ registered)
    (htext : cell.canonicalText? "" = some text) :
    (∀ front back, text.toList = front ++ (needle.toList ++ back) →
      Text.KeepsForms front.reverse needle.toList back →
        evaluate? registered .contains cell (.text needle) = some true ∧
        evaluate? registered .notContains cell (.text needle) = some false) ∧
    (∀ back, text.toList = needle.toList ++ back →
      (evaluate? registered .startsWith cell (.text needle) = some true ↔
        Text.KeepsForms [] needle.toList back)) ∧
    (∀ front, text.toList = front ++ needle.toList →
      (evaluate? registered .endsWith cell (.text needle) = some true ↔
        Text.KeepsForms front.reverse needle.toList [])) ∧
    ∀ front back, ('Σ' ∈ needle.toList → Text.casedNext front = false ∧ Text.casedNext back = false) →
      Text.KeepsForms front needle.toList back := by
  have answers {operator : Operator} (hlexical : operator ∈ Operator.lexical) (answer : Bool) :=
    @evaluate?_eq_some_iff cell text needle registered operator (hregistered operator hlexical)
      (List.mem_filter.mpr ⟨Constraints.operator_mem_all operator, by revert operator; decide⟩) htext answer
  refine ⟨?_, ?_, ?_, ?_⟩
  · intro front back hsplit hkeeps
    have hfound := contains_of_keepsForms hsplit hkeeps
    constructor
    · exact (answers (by decide) true).mpr (iff_of_true rfl hfound)
    · exact (answers (by decide) false).mpr (iff_of_false Bool.false_ne_true fun h => h hfound)
  · intro back hsplit
    rw [answers (by decide) true, ← startsWith_iff_keepsForms hsplit]
    simp [Operator.Finds]
  · intro front hsplit
    rw [answers (by decide) true, ← endsWith_iff_keepsForms hsplit]
    simp [Operator.Finds]
  · intro front back h
    by_cases hsigma : 'Σ' ∈ needle.toList
    · exact Text.keepsForms_of_casedNext (h hsigma).1 (h hsigma).2 _
    · exact Text.keepsForms_of_not_mem hsigma _ _

/-- A word with a sigma at its end is found where it stands between other words. -/
theorem verbatim_found_words :
    let cell : Value := .text "Η ΟΔΟΣ ΜΟΥ"
    evaluate? evaluable .contains cell (.text "ΟΔΟΣ") = some true ∧
      evaluate? evaluable .notContains cell (.text "ΟΔΟΣ") = some false := by
  intro cell
  have hregistered : ∀ operator ∈ Operator.lexical, operator ∈ evaluable := by decide
  obtain ⟨hcontains, -, -, hkeeps⟩ :=
    @verbatim_found cell "Η ΟΔΟΣ ΜΟΥ" "ΟΔΟΣ" evaluable hregistered rfl
  refine hcontains ['Η', ' '] [' ', 'Μ', 'Ο', 'Υ'] (by decide) (hkeeps _ _ fun _ => ?_)
  exact ⟨Text.casedNext_blank _, Text.casedNext_blank _⟩

/-- A capital sigma alone is not found at the end of a word, and a word that ends with one is not found at
the beginning of a longer word. -/
theorem verbatim_lost_sigma :
    "Σ".toList <:+: "ΑΣ".toList ∧ "ΑΣ".toList <+: "ΑΣΒ".toList ∧
      evaluate? evaluable .contains (.text "ΑΣ") (.text "Σ") = some false ∧
      evaluate? evaluable .notContains (.text "ΑΣ") (.text "Σ") = some true ∧
      evaluate? evaluable .endsWith (.text "ΑΣ") (.text "Σ") = some false ∧
      evaluate? evaluable .startsWith (.text "ΑΣΒ") (.text "ΑΣ") = some false := by
  exact ⟨by decide, by decide, by decide +kernel, by decide +kernel, by decide +kernel, by decide +kernel⟩

end GridQuery.Residual
