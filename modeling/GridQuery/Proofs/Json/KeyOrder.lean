import GridQuery.Coercion
import GridQuery.Proofs.Json.Sorting

/-!
# The order of fields

JSON with sorted fields is the same for values that differ in the order of the fields of their objects only.
JSON with the fields as they stand is as long for the one as for the other, but tells them apart.
-/

namespace GridQuery

theorem sortFields_eq_of_perm {α : Type} {fields others : List (String × α)}
    (hnodup : (fields.map (·.1)).Nodup) (hperm : fields.Perm others) :
    sortFields fields = sortFields others := by
  refine List.Perm.eq_of_pairwise ?_ (pairwise_sortFields fields) (pairwise_sortFields others)
    ((sortFields_perm fields).trans (hperm.trans (sortFields_perm others).symm))
  intro a b ha hb hab hba
  have hname : a.1 = b.1 := String.le_antisymm (of_decide_eq_true hab) (of_decide_eq_true hba)
  have ha : a ∈ fields := (sortFields_perm fields).subset ha
  have hb : b ∈ fields := hperm.symm.subset ((sortFields_perm others).subset hb)
  exact List.inj_on_of_nodup_map hnodup ha hb hname

theorem length_intercalate {α : Type} (separator : List α) (parts : List (List α)) :
    (separator.intercalate parts).length =
      (parts.map List.length).sum + separator.length * (parts.length - 1) := by
  induction parts with
  | nil => simp
  | cons first parts ih =>
    cases parts with
    | nil => simp
    | cons second parts =>
      rw [List.intercalate_cons_cons, List.length_append, List.length_append, ih]
      simp only [List.map_cons, List.sum_cons, List.length_cons, Nat.add_sub_cancel, Nat.mul_succ]
      omega

namespace Value
variable {u v : Value} {items : List Value} {fields : List (String × Value)} {depth : Nat} {sorted : Bool}

theorem itemsReadable_iff : ItemsReadable items ↔ ∀ item ∈ items, item.IsReadable := by
  induction items with
  | nil => exact iff_of_true trivial nofun
  | cons item items ih => rw [ItemsReadable, ih, List.forall_mem_cons]

theorem fieldsReadable_iff : FieldsReadable fields ↔ ∀ field ∈ fields, field.2.IsReadable := by
  induction fields with
  | nil => exact iff_of_true trivial nofun
  | cons field fields ih => rw [FieldsReadable, ih, List.forall_mem_cons]

theorem itemsObstacle?_eq_none : itemsObstacle? sorted items depth = none ↔
    ∀ item ∈ items, item.obstacle? sorted depth = none := by
  induction items with
  | nil => exact iff_of_true rfl nofun
  | cons item items ih => rw [itemsObstacle?, Option.or_eq_none_iff, ih, List.forall_mem_cons]

theorem fieldObstacles_eq_map (sorted : Bool) (fields : List (String × Value)) (depth : Nat) :
    fieldObstacles sorted fields depth =
      fields.map fun field => (field.1, field.2.obstacle? sorted depth) := by
  induction fields with
  | nil => rfl
  | cons field fields ih => rw [fieldObstacles, ih, List.map_cons]

theorem object_obstacle?_eq_none : (object fields).obstacle? sorted (depth + 1) = none ↔
    ∀ field ∈ fields, field.2.obstacle? sorted depth = none := by
  rw [obstacle?, findSome?_sortFields_eq_none_iff, fieldObstacles_eq_map, List.forall_mem_map]

/-- The values are equal up to the order of the fields of objects, at any depth: one can be turned into the
other by moving the fields of one object after the other. -/
inductive Rearranged : Value → Value → Prop
  | refl (value : Value) : Rearranged value value
  | trans {u v w : Value} : Rearranged u v → Rearranged v w → Rearranged u w
  | fields {fields others : List (String × Value)} :
    fields.Perm others → Rearranged (object fields) (object others)
  | field {u v : Value} {name : String} {before after : List (String × Value)} : Rearranged u v →
    Rearranged (object (before ++ (name, u) :: after)) (object (before ++ (name, v) :: after))
  | item {u v : Value} {before after : List Value} : Rearranged u v →
    Rearranged (list (before ++ u :: after)) (list (before ++ v :: after))

namespace Rearranged

theorem symm (h : Rearranged u v) : Rearranged v u := by
  induction h with
  | refl value => exact .refl value
  | trans _ _ first second => exact .trans second first
  | fields hperm => exact .fields hperm.symm
  | field _ ih => exact .field ih
  | item _ ih => exact .item ih

theorem items_trans {items others more : List Value} (h : List.Forall₂ Rearranged items others)
    (hmore : List.Forall₂ Rearranged others more) : List.Forall₂ Rearranged items more := by
  induction h generalizing more with
  | nil => exact hmore
  | cons first _ ih =>
    cases hmore with
    | cons second hmore => exact .cons (first.trans second) (ih hmore)

theorem cases (h : Rearranged u v) : u = v ∨
    (∃ fields others, u = object fields ∧ v = object others) ∨
    ∃ items others, u = list items ∧ v = list others ∧ List.Forall₂ Rearranged items others := by
  induction h with
  | refl value => exact .inl rfl
  | fields _ => exact .inr (.inl ⟨_, _, rfl, rfl⟩)
  | field _ _ => exact .inr (.inl ⟨_, _, rfl, rfl⟩)
  | item h _ =>
    have hsame (items : List Value) : List.Forall₂ Rearranged items items :=
      List.forall₂_same.mpr fun item _ => .refl item
    exact .inr (.inr ⟨_, _, rfl, rfl, List.rel_append (hsame _) (.cons h (hsame _))⟩)
  | trans _ _ first second =>
    rcases first with rfl | ⟨fields, others, rfl, rfl⟩ | ⟨items, others, rfl, rfl, hitems⟩
    · exact second
    · rcases second with rfl | ⟨_, _, -, rfl⟩ | ⟨_, _, h, -⟩
      · exact .inr (.inl ⟨_, _, rfl, rfl⟩)
      · exact .inr (.inl ⟨_, _, rfl, rfl⟩)
      · cases h
    · rcases second with rfl | ⟨_, _, h, -⟩ | ⟨_, _, h, rfl, hmore⟩
      · exact .inr (.inr ⟨_, _, rfl, rfl, hitems⟩)
      · cases h
      · obtain rfl := list.inj h
        exact .inr (.inr ⟨_, _, rfl, rfl, items_trans hitems hmore⟩)

theorem readable (h : Rearranged u v) : u.IsReadable → v.IsReadable := by
  induction h with
  | refl value => exact id
  | trans _ _ first second => exact second ∘ first
  | fields hperm =>
    rintro ⟨hnodup, hfields⟩
    refine ⟨(hperm.map (·.1)).nodup_iff.mp hnodup, fieldsReadable_iff.mpr fun field hfield => ?_⟩
    exact fieldsReadable_iff.mp hfields field (hperm.symm.subset hfield)
  | @field u v name before after _ ih =>
    rintro ⟨hnodup, hfields⟩
    rw [fieldsReadable_iff, List.forall_mem_append, List.forall_mem_cons] at hfields
    refine ⟨?_, ?_⟩
    · rw [List.map_append, List.map_cons] at hnodup ⊢
      exact hnodup
    · rw [fieldsReadable_iff, List.forall_mem_append, List.forall_mem_cons]
      exact ⟨hfields.1, ih hfields.2.1, hfields.2.2⟩
  | item _ ih =>
    intro hitems
    rw [IsReadable, itemsReadable_iff, List.forall_mem_append, List.forall_mem_cons] at hitems ⊢
    exact ⟨hitems.1, ih hitems.2.1, hitems.2.2⟩

/-- What stands in the way of writing the one stands in the way of writing the other. -/
theorem obstacle?_eq_none (h : Rearranged u v) :
    u.obstacle? sorted depth = none → v.obstacle? sorted depth = none := by
  induction h generalizing depth with
  | refl value => exact id
  | trans _ _ first second => exact second ∘ first
  | fields hperm =>
    cases depth with
    | zero => exact nofun
    | succ depth =>
      rw [object_obstacle?_eq_none, object_obstacle?_eq_none]
      exact fun hfields field hfield => hfields field (hperm.symm.subset hfield)
  | field _ ih =>
    cases depth with
    | zero => exact nofun
    | succ depth =>
      simp only [object_obstacle?_eq_none, List.forall_mem_append, List.forall_mem_cons]
      exact fun ⟨hbefore, hfield, hafter⟩ => ⟨hbefore, ih hfield, hafter⟩
  | item _ ih =>
    cases depth with
    | zero => exact nofun
    | succ depth =>
      simp only [obstacle?, itemsObstacle?_eq_none, List.forall_mem_append, List.forall_mem_cons]
      exact fun ⟨hbefore, hitem, hafter⟩ => ⟨hbefore, ih hitem, hafter⟩

end Rearranged

end Value

namespace Json
variable {u v : Value} {sorted : Bool}

theorem writeItems_eq_map (sorted : Bool) (items : List Value) :
    writeItems sorted items = items.map (write sorted) := by
  induction items with
  | nil => rfl
  | cons item items ih => rw [writeItems, ih, List.map_cons]

theorem write_true_of_rearranged (h : u.Rearranged v) (readable : u.IsReadable) :
    write true u = write true v := by
  induction h with
  | refl value => rfl
  | trans first _ ih more => exact (ih readable).trans (more (first.readable readable))
  | @fields fields others hperm =>
    have hsorted : sortFields (writeFields true fields) = sortFields (writeFields true others) := by
      rw [writeFields_eq_map, writeFields_eq_map]
      refine sortFields_eq_of_perm ?_ (hperm.map _)
      rw [List.map_map]
      exact readable.1
    rw [write, write, if_pos rfl, if_pos rfl, hsorted]
  | @field u v name before after _ ih =>
    have hfield := (Value.fieldsReadable_iff.mp readable.2) (name, u) (by simp)
    have hwritten : writeFields true (before ++ (name, u) :: after) =
        writeFields true (before ++ (name, v) :: after) := by
      simp only [writeFields_eq_map, List.map_append, List.map_cons, ih hfield]
    rw [write, write, hwritten]
  | @item u v before after _ ih =>
    have hitem := (Value.itemsReadable_iff.mp readable) u (by simp)
    rw [write, write, writeItems_eq_map, writeItems_eq_map, List.map_append, List.map_append, List.map_cons,
      List.map_cons, ih hitem]

theorem length_write_list (items : List Value) : (write false (.list items)).length =
    (items.map fun item => (write false item).length).sum + 2 * (items.length - 1) + 2 := by
  rw [write, List.length_append, List.length_cons, length_intercalate, writeItems_eq_map, List.map_map,
    List.length_map]
  rfl

theorem length_write_object (fields : List (String × Value)) : (write false (.object fields)).length =
    (fields.map fun field => (writeText field.1).length + (write false field.2).length + 2).sum +
      2 * (fields.length - 1) + 2 := by
  rw [write, if_neg Bool.false_ne_true, List.length_append, List.length_cons, length_intercalate,
    writeFields_eq_map, List.map_map, List.map_map, List.length_map, List.length_map]
  simp [Function.comp_def, Nat.add_assoc]

theorem length_write_of_rearranged (h : u.Rearranged v) :
    (write false u).length = (write false v).length := by
  induction h with
  | refl value => rfl
  | trans _ _ first second => exact first.trans second
  | fields hperm =>
    rw [length_write_object, length_write_object, (hperm.map _).sum_eq, hperm.length_eq]
  | field _ ih =>
    rw [length_write_object, length_write_object]
    simp [ih]
  | item _ ih =>
    rw [length_write_list, length_write_list]
    simp [ih]

theorem write_false_inj {depth : Nat} (hu : u.Legible depth) (hv : v.Legible depth) :
    write false u = write false v ↔ u = v := by
  constructor
  · intro h
    have hread := read_write_of_legible hu
    rw [h, read_write_of_legible hv] at hread
    exact (Except.ok.inj hread).symm
  · exact congrArg (write false)

end Json
end GridQuery
