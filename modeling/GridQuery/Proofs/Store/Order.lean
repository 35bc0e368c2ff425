import GridQuery.Proofs.Calendar.Utc
import GridQuery.Proofs.StableSort
import GridQuery.Proofs.Store.Fetch
import Mathlib.Data.List.Nodup

/-!
# The order of rows

An order of rows is total and transitive, so that a listing is sorted.  Rows with different ids never
share a place: a list of them in strict order is the listing.
-/

namespace GridQuery

namespace RowOrder
variable {order : RowOrder} {a b : StoredRow}

theorem precedes_id_iff {descending : Bool} :
    precedes ⟨.id, descending⟩ a b ↔ if descending then b.id ≤ a.id else a.id ≤ b.id := by
  cases descending <;> simp [precedes]

theorem precedes_createdAt_iff {descending : Bool} :
    precedes ⟨.createdAt, descending⟩ a b ↔
      (a.createdAt.micros = b.createdAt.micros ∧ a.id ≤ b.id) ∨
        if descending then b.createdAt.micros < a.createdAt.micros
        else a.createdAt.micros < b.createdAt.micros := by
  simp only [precedes, Reading.eq_iff_micros]
  split
  · cases descending <;> simp <;> omega
  · cases descending <;> simp <;> omega

theorem precedes_trans (a b c : StoredRow) (hab : order.precedes a b) (hbc : order.precedes b c) :
    order.precedes a c := by
  obtain ⟨field, descending⟩ := order
  cases field with
  | id =>
    rw [precedes_id_iff] at *
    cases descending <;> simp only [Bool.false_eq_true, if_true, if_false] at * <;> omega
  | createdAt =>
    rw [precedes_createdAt_iff] at *
    cases descending <;> simp only [Bool.false_eq_true, if_true, if_false] at * <;> omega

theorem precedes_total (a b : StoredRow) : order.precedes a b || order.precedes b a := by
  obtain ⟨field, descending⟩ := order
  rw [Bool.or_eq_true]
  cases field with
  | id =>
    rw [precedes_id_iff, precedes_id_iff]
    cases descending <;> simp only [Bool.false_eq_true, if_true, if_false] <;> omega
  | createdAt =>
    rw [precedes_createdAt_iff, precedes_createdAt_iff]
    cases descending <;> simp only [Bool.false_eq_true, if_true, if_false] <;> omega

theorem id_eq_of_precedes (hab : order.precedes a b) (hba : order.precedes b a) : a.id = b.id := by
  obtain ⟨field, descending⟩ := order
  cases field with
  | id =>
    rw [precedes_id_iff] at *
    cases descending <;> simp only [Bool.false_eq_true, if_true, if_false] at * <;> omega
  | createdAt =>
    rw [precedes_createdAt_iff] at *
    cases descending <;> simp only [Bool.false_eq_true, if_true, if_false] at * <;> omega

end RowOrder

namespace Store
variable {store : Store} {predicate : Predicate} {order : RowOrder}

theorem listing_perm : (store.listing predicate order).Perm (store.matching predicate) :=
  List.mergeSort_perm _ _

theorem listing_pairwise : (store.listing predicate order).Pairwise (order.precedes · ·) :=
  List.pairwise_mergeSort RowOrder.precedes_trans RowOrder.precedes_total _

theorem eq_listing (keyed : ((store.matching predicate).map (·.id)).Nodup) {rows : List StoredRow}
    (perm : rows.Perm (store.matching predicate)) (sorted : rows.Pairwise (order.precedes · ·)) :
    rows = store.listing predicate order := by
  apply (perm.trans listing_perm.symm).eq_of_pairwise _ sorted listing_pairwise
  intro a b ha hb hab hba
  exact List.inj_on_of_nodup_map keyed (perm.subset ha) (listing_perm.subset hb)
    (RowOrder.id_eq_of_precedes hab hba)

end Store

end GridQuery
