import Mathlib.Data.List.Pairwise

/-!
# Stable sorting

Elements that belong in one place keep the order in which they stood before.  So leaving elements out and
sorting can be exchanged, and a part of a list whose elements all share a place looks the same when the
list is sorted.
-/

namespace GridQuery

section StableSort
variable {α : Type} {le : α → α → Bool}

/-- An element divides a list in at most one way into what does not come after it and what does. -/
theorem append_inj_around {a : α} {before after before' after' : List α}
    (heq : before ++ after = before' ++ after')
    (hbefore : ∀ b ∈ before, !le a b) (hafter : ∀ b ∈ after, le a b)
    (hbefore' : ∀ b ∈ before', !le a b) (hafter' : ∀ b ∈ after', le a b) :
    before = before' ∧ after = after' := by
  have first {xs ys : List α} (hxs : ∀ b ∈ xs, !le a b) (hys : ∀ b ∈ ys, le a b) :
      (xs ++ ys).filter (fun b => !le a b) = xs := by
    rw [List.filter_append, List.filter_eq_self.mpr hxs,
      List.filter_eq_nil_iff.mpr fun b hb => by simp [hys b hb], List.append_nil]
  have hsame : before = before' := by
    rw [← first hbefore hafter, heq, first hbefore' hafter']
  subst hsame
  exact ⟨rfl, List.append_cancel_left heq⟩

variable (trans : ∀ a b c, le a b → le b c → le a c) (total : ∀ a b, le a b || le b a)
include trans total

theorem mergeSort_filter (p : α → Bool) (l : List α) :
    (l.filter p).mergeSort le = (l.mergeSort le).filter p := by
  induction l with
  | nil => simp
  | cons a l ih =>
    obtain ⟨before, after, hsort, hrest, hbefore⟩ := List.mergeSort_cons trans total a l
    by_cases hp : p a
    · obtain ⟨before', after', hsort', hrest', hbefore'⟩ :=
        List.mergeSort_cons trans total a (l.filter p)
      have hafter : ∀ b ∈ after, le a b := by
        have sorted := List.pairwise_mergeSort trans total (a :: l)
        rw [hsort] at sorted
        exact (List.pairwise_cons.mp (List.pairwise_append.mp sorted).2.1).1
      have hafter' : ∀ b ∈ after', le a b := by
        have sorted := List.pairwise_mergeSort trans total (a :: l.filter p)
        rw [hsort'] at sorted
        exact (List.pairwise_cons.mp (List.pairwise_append.mp sorted).2.1).1
      rw [ih, hrest, List.filter_append] at hrest'
      obtain ⟨rfl, rfl⟩ := append_inj_around hrest'.symm hbefore' hafter'
        (fun b hb => hbefore b (List.mem_filter.mp hb).1)
        (fun b hb => hafter b (List.mem_filter.mp hb).1)
      rw [List.filter_cons_of_pos hp, hsort', hsort, List.filter_append, List.filter_cons_of_pos hp]
    · rw [List.filter_cons_of_neg hp, ih, hsort, hrest, List.filter_append, List.filter_append,
        List.filter_cons_of_neg hp]

theorem filter_mergeSort {p : α → Bool} (h : ∀ a b, p a → p b → le a b) (l : List α) :
    (l.mergeSort le).filter p = l.filter p := by
  rw [← mergeSort_filter trans total]
  apply List.mergeSort_of_pairwise
  apply List.pairwise_of_forall_mem_list
  intro a ha b hb
  exact h a b (List.mem_filter.mp ha).2 (List.mem_filter.mp hb).2

end StableSort

end GridQuery
