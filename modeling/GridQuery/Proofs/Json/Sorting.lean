import GridQuery.Coercion
import GridQuery.Proofs.Json.Rewriting

/-!
# Sorted fields

A value with the fields of all its objects in order is written as any of the same value is that has the fields
sorted while it is written.  So the canonical text of an object is JSON for its sorted form.
-/

namespace GridQuery

namespace Value

mutual

/-- The value with the fields of every object in it sorted by name. -/
def sorted : Value → Value
  | list items => list (sortedItems items)
  | object fields => object (sortFields (sortedFields fields))
  | value => value

def sortedItems : List Value → List Value
  | [] => []
  | item :: items => sorted item :: sortedItems items

def sortedFields : List (String × Value) → List (String × Value)
  | [] => []
  | (name, value) :: fields => (name, sorted value) :: sortedFields fields

end

end Value

section Fields
variable {α β : Type} {fields : List (String × α)}

theorem map_sortFields (f : String × α → String × β) (hname : ∀ field, (f field).1 = field.1)
    (fields : List (String × α)) : (sortFields fields).map f = sortFields (fields.map f) := by
  apply List.map_mergeSort
  intro a _ b _
  rw [hname, hname]

theorem sortFields_perm (fields : List (String × α)) : (sortFields fields).Perm fields :=
  List.mergeSort_perm fields _

theorem pairwise_sortFields (fields : List (String × α)) :
    (sortFields fields).Pairwise fun a b => decide (a.1 ≤ b.1) = true := by
  apply List.pairwise_mergeSort
  · intro a b c hab hbc
    rw [decide_eq_true_eq] at hab hbc ⊢
    exact String.le_trans hab hbc
  · intro a b
    rw [Bool.or_eq_true, decide_eq_true_eq, decide_eq_true_eq]
    exact String.le_total a.1 b.1

theorem sortFields_sortFields (fields : List (String × α)) :
    sortFields (sortFields fields) = sortFields fields :=
  List.mergeSort_of_pairwise (pairwise_sortFields fields)

end Fields

namespace Json

theorem writeFields_eq_map (sorted : Bool) (fields : List (String × Value)) :
    writeFields sorted fields = fields.map fun field => (field.1, write sorted field.2) := by
  induction fields with
  | nil => rfl
  | cons field fields ih =>
    rw [writeFields, ih]
    rfl

theorem writeFields_sortFields (sorted : Bool) (fields : List (String × Value)) :
    writeFields sorted (sortFields fields) = sortFields (writeFields sorted fields) := by
  rw [writeFields_eq_map, writeFields_eq_map]
  apply map_sortFields
  intro field
  rfl

mutual

theorem write_false_sorted : (value : Value) → write false value.sorted = write true value
  | .list items => by
    rw [Value.sorted, write, write, writeItems_false_sorted items]
  | .object fields => by
    rw [Value.sorted, write, write, if_neg Bool.false_ne_true, if_pos rfl, writeFields_sortFields,
      writeFields_false_sorted fields]
  | .null | .bool _ | .int _ | .real _ | .text _ | .date _ | .time _ => rfl

theorem writeItems_false_sorted : (items : List Value) →
    writeItems false (Value.sortedItems items) = writeItems true items
  | [] => rfl
  | item :: items => by
    rw [Value.sortedItems, writeItems, writeItems, write_false_sorted item, writeItems_false_sorted items]

theorem writeFields_false_sorted : (fields : List (String × Value)) →
    writeFields false (Value.sortedFields fields) = writeFields true fields
  | [] => rfl
  | (name, value) :: fields => by
    rw [Value.sortedFields, writeFields, writeFields, write_false_sorted value,
      writeFields_false_sorted fields]

end

mutual

theorem write_true_sorted : (value : Value) → write true value.sorted = write true value
  | .list items => by
    rw [Value.sorted, write, write, writeItems_true_sorted items]
  | .object fields => by
    rw [Value.sorted, write, write, if_pos rfl, if_pos rfl, writeFields_sortFields, sortFields_sortFields,
      writeFields_true_sorted fields]
  | .null | .bool _ | .int _ | .real _ | .text _ | .date _ | .time _ => rfl

theorem writeItems_true_sorted : (items : List Value) →
    writeItems true (Value.sortedItems items) = writeItems true items
  | [] => rfl
  | item :: items => by
    rw [Value.sortedItems, writeItems, writeItems, write_true_sorted item, writeItems_true_sorted items]

theorem writeFields_true_sorted : (fields : List (String × Value)) →
    writeFields true (Value.sortedFields fields) = writeFields true fields
  | [] => rfl
  | (name, value) :: fields => by
    rw [Value.sortedFields, writeFields, writeFields, write_true_sorted value, writeFields_true_sorted fields]

end

end Json

namespace Value
variable {depth : Nat} {items : List Value} {fields : List (String × Value)} {value : Value}

theorem Legible.of_list (h : (list items).Legible (depth + 1)) : ∀ item ∈ items, item.Legible depth := by
  induction items with
  | nil => exact nofun
  | cons item items ih =>
    obtain ⟨readable, short, shallow⟩ := h
    have hmax := Nat.max_le.mp (Nat.le_of_succ_le_succ shallow)
    refine List.forall_mem_cons.mpr ⟨⟨readable.1, short.1, hmax.1⟩, ih ?_⟩
    exact ⟨readable.2, short.2, Nat.succ_le_succ hmax.2⟩

theorem Legible.of_object (h : (object fields).Legible (depth + 1)) :
    ∀ field ∈ fields, field.2.Legible depth := by
  induction fields with
  | nil => exact nofun
  | cons field fields ih =>
    obtain ⟨⟨hnodup, readable⟩, short, shallow⟩ := h
    have hmax := Nat.max_le.mp (Nat.le_of_succ_le_succ shallow)
    refine List.forall_mem_cons.mpr ⟨⟨readable.1, short.1, hmax.1⟩, ih ?_⟩
    exact ⟨⟨(List.nodup_cons.mp hnodup).2, readable.2⟩, short.2, Nat.succ_le_succ hmax.2⟩

theorem map_fst_sortedFields (fields : List (String × Value)) :
    (sortedFields fields).map (·.1) = fields.map (·.1) := by
  induction fields with
  | nil => rfl
  | cons field fields ih => rw [sortedFields, List.map_cons, List.map_cons, ih]

mutual

theorem Legible.sorted : {value : Value} → {depth : Nat} → value.Legible depth → value.sorted.Legible depth
  | .list items, 0, h => absurd h.shallow (Nat.not_succ_le_zero _)
  | .list items, _ + 1, h => legible_list (legible_sortedItems h.of_list)
  | .object fields, 0, h => absurd h.shallow (Nat.not_succ_le_zero _)
  | .object fields, _ + 1, h => by
    have hperm := sortFields_perm (sortedFields fields)
    refine legible_object ?_ fun field hfield =>
      legible_sortedFields h.of_object field (hperm.subset hfield)
    refine (hperm.map (·.1)).nodup_iff.mpr ?_
    rw [map_fst_sortedFields]
    exact h.readable.1
  | .null, _, h | .bool _, _, h | .int _, _, h | .real _, _, h | .text _, _, h | .date _, _, h
  | .time _, _, h => h

theorem legible_sortedItems : {items : List Value} → {depth : Nat} → (∀ item ∈ items, item.Legible depth) →
    ∀ item ∈ sortedItems items, item.Legible depth
  | [], _, h => h
  | item :: items, _, h => by
    obtain ⟨hfirst, hrest⟩ := List.forall_mem_cons.mp h
    exact List.forall_mem_cons.mpr ⟨hfirst.sorted, legible_sortedItems hrest⟩

theorem legible_sortedFields : {fields : List (String × Value)} → {depth : Nat} →
    (∀ field ∈ fields, field.2.Legible depth) → ∀ field ∈ sortedFields fields, field.2.Legible depth
  | [], _, h => h
  | field :: fields, _, h => by
    obtain ⟨hfirst, hrest⟩ := List.forall_mem_cons.mp h
    exact List.forall_mem_cons.mpr ⟨hfirst.sorted, legible_sortedFields hrest⟩

end

/-- The canonical text of a list or an object is JSON for a value with the same canonical text. -/
theorem read_canonicalText? {type text : String} {depth : Nat} (htype : type ≠ "reference")
    (hlegible : value.Legible depth)
    (hnested : (∃ items, value = list items) ∨ ∃ fields, value = object fields)
    (htext : value.canonicalText? type = some text) :
    ∃ spelled, Json.read depth text = .ok spelled ∧ spelled.canonicalText? type = some text := by
  rcases hnested with ⟨items, rfl⟩ | ⟨fields, rfl⟩
  · refine ⟨list items, ?_, htext⟩
    rw [canonicalText?, if_neg htype, scalarText?, Option.some.injEq] at htext
    rw [← htext]
    exact Json.read_write_of_legible hlegible
  · have htext : String.ofList (Json.write true (object fields)) = text := Option.some.inj htext
    refine ⟨(object fields).sorted, ?_, ?_⟩
    · rw [← htext, ← Json.write_false_sorted]
      exact Json.read_write_of_legible hlegible.sorted
    · rw [← htext, ← Json.write_true_sorted]
      rfl

end Value

end GridQuery
