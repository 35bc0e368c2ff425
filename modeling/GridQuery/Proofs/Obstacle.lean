import GridQuery.Value.Obstacle
import Mathlib.Data.List.Sort

/-!
# What stands in the way of writing a value

A value can be written out if and only if its brackets nest no deeper than allowed and its whole numbers
are short.  It is too deep only if its brackets nest deeper.
-/

namespace GridQuery.Value

mutual

def depth : Value → Nat
  | list items => itemsDepth items + 1
  | object fields => fieldsDepth fields + 1
  | _ => 0

def itemsDepth : List Value → Nat
  | [] => 0
  | item :: items => max (depth item) (itemsDepth items)

def fieldsDepth : List (String × Value) → Nat
  | [] => 0
  | (_, value) :: fields => max (depth value) (fieldsDepth fields)

end

mutual

def Short : Value → Prop
  | int n => (Decimal.numeral n.natAbs).length ≤ 4300
  | list items => ItemsShort items
  | object fields => FieldsShort fields
  | _ => True

def ItemsShort : List Value → Prop
  | [] => True
  | item :: items => Short item ∧ ItemsShort items

def FieldsShort : List (String × Value) → Prop
  | [] => True
  | (_, value) :: fields => Short value ∧ FieldsShort fields

end

theorem findSome?_sortFields_eq_none_iff {sorted : Bool}
    {found : List (String × Option Obstacle)} :
    (if sorted then sortFields found else found).findSome? (·.2) = none ↔
      ∀ field ∈ found, field.2 = none := by
  rw [List.findSome?_eq_none_iff]
  split
  · simp only [sortFields, List.mem_mergeSort]
  · rfl

theorem mem_of_findSome?_sortFields {sorted : Bool} {found : List (String × Option Obstacle)}
    {obstacle : Obstacle}
    (h : (if sorted then sortFields found else found).findSome? (·.2) = some obstacle) :
    ∃ field ∈ found, field.2 = some obstacle := by
  obtain ⟨field, hmem, hfield⟩ := List.exists_of_findSome?_eq_some h
  refine ⟨field, ?_, hfield⟩
  split at hmem
  · simpa only [sortFields, List.mem_mergeSort] using hmem
  · exact hmem

mutual

theorem obstacle?_eq_none_iff (sorted : Bool) : (value : Value) → (depth : Nat) →
    (value.obstacle? sorted depth = none ↔ value.depth ≤ depth ∧ value.Short)
  | int n, _ => by simp [obstacle?, Value.depth, Short]
  | list items, 0 => by simp [obstacle?, Value.depth]
  | object fields, 0 => by simp [obstacle?, Value.depth]
  | list items, depth + 1 => by
    rw [obstacle?, Value.depth, Short, itemsObstacle?_eq_none_iff sorted items depth,
      Nat.add_le_add_iff_right]
  | object fields, depth + 1 => by
    rw [obstacle?, Value.depth, Short, Nat.add_le_add_iff_right,
      ← fieldObstacles_eq_none_iff sorted fields depth]
    exact findSome?_sortFields_eq_none_iff
  | null, _ | bool _, _ | real _, _ | text _, _ | date _, _ | time _, _ => by
    simp [obstacle?, Value.depth, Short]

theorem itemsObstacle?_eq_none_iff (sorted : Bool) : (items : List Value) → (depth : Nat) →
    (itemsObstacle? sorted items depth = none ↔ itemsDepth items ≤ depth ∧ ItemsShort items)
  | [], _ => by simp [itemsObstacle?, itemsDepth, ItemsShort]
  | item :: items, depth => by
    rw [itemsObstacle?, Option.or_eq_none_iff, obstacle?_eq_none_iff sorted item depth,
      itemsObstacle?_eq_none_iff sorted items depth, itemsDepth, ItemsShort, Nat.max_le]
    exact and_and_and_comm

theorem fieldObstacles_eq_none_iff (sorted : Bool) : (fields : List (String × Value)) →
    (depth : Nat) → ((∀ field ∈ fieldObstacles sorted fields depth, field.2 = none) ↔
      fieldsDepth fields ≤ depth ∧ FieldsShort fields)
  | [], _ => by simp [fieldObstacles, fieldsDepth, FieldsShort]
  | (name, value) :: fields, depth => by
    rw [fieldObstacles, List.forall_mem_cons, obstacle?_eq_none_iff sorted value depth,
      fieldObstacles_eq_none_iff sorted fields depth, fieldsDepth, FieldsShort, Nat.max_le]
    exact and_and_and_comm

end

mutual

theorem lt_depth_of_tooDeep {sorted : Bool} : {value : Value} → {depth : Nat} →
    value.obstacle? sorted depth = some .tooDeep → depth < value.depth
  | int n, _, h => by
    rw [obstacle?] at h
    split at h <;> cases h
  | list items, 0, _ => Nat.succ_pos _
  | object fields, 0, _ => Nat.succ_pos _
  | list items, depth + 1, h => Nat.succ_lt_succ (lt_itemsDepth_of_tooDeep h)
  | object fields, depth + 1, h => by
    obtain ⟨field, hmem, hfield⟩ := mem_of_findSome?_sortFields h
    exact Nat.succ_lt_succ (lt_fieldsDepth_of_tooDeep hmem hfield)
  | null, _, h | bool _, _, h | real _, _, h | text _, _, h | date _, _, h | time _, _, h => by
    simp [obstacle?] at h

theorem lt_itemsDepth_of_tooDeep {sorted : Bool} : {items : List Value} → {depth : Nat} →
    itemsObstacle? sorted items depth = some .tooDeep → depth < itemsDepth items
  | [], _, h => by cases h
  | item :: items, depth, h => by
    rw [itemsObstacle?, Option.or_eq_some_iff] at h
    rcases h with h | ⟨_, h⟩
    · exact Nat.lt_of_lt_of_le (lt_depth_of_tooDeep h) (Nat.le_max_left _ _)
    · exact Nat.lt_of_lt_of_le (lt_itemsDepth_of_tooDeep h) (Nat.le_max_right _ _)

theorem lt_fieldsDepth_of_tooDeep {sorted : Bool} : {fields : List (String × Value)} →
    {depth : Nat} → {field : String × Option Obstacle} →
    field ∈ fieldObstacles sorted fields depth → field.2 = some .tooDeep →
      depth < fieldsDepth fields
  | [], _, _, hmem, _ => by cases hmem
  | (name, value) :: fields, depth, field, hmem, hfield => by
    rcases List.mem_cons.mp hmem with rfl | hmem
    · exact Nat.lt_of_lt_of_le (lt_depth_of_tooDeep hfield) (Nat.le_max_left _ _)
    · exact Nat.lt_of_lt_of_le (lt_fieldsDepth_of_tooDeep hmem hfield) (Nat.le_max_right _ _)

end

end GridQuery.Value
