import GridQuery.Proofs.Json.Reading

/-!
# The texts of a value

The texts in a value of JSON, and what becomes of the value with another text for each.  It stays if and
only if all its texts do.
-/

namespace GridQuery

namespace Json
variable {before fields : List (String × Value)}

theorem setField_cases {α : Type} (name : String) (value : α) (fields : List (String × α)) :
    setField name value fields = fields ++ [(name, value)] ∨
      (setField name value fields).length = fields.length := by
  induction fields with
  | nil => exact Or.inl rfl
  | cons field fields ih =>
    obtain ⟨other, old⟩ := field
    rw [setField]
    split
    · exact Or.inr rfl
    · rcases ih with hnew | hlength
      · rw [hnew]
        exact Or.inl rfl
      · exact Or.inr (congrArg Nat.succ hlength)

theorem setFields_length_le (before fields : List (String × Value)) :
    (setFields before fields).length ≤ before.length + fields.length := by
  induction fields generalizing before with
  | nil => exact Nat.le_refl _
  | cons field fields ih =>
    have hrest := ih (setField field.1 field.2 before)
    have hfield : (setField field.1 field.2 before).length ≤ before.length + 1 := by
      rcases setField_cases field.1 field.2 before with hnew | hlength
      · rw [hnew, List.length_append, List.length_singleton]
      · omega
    rw [List.length_cons]
    exact Nat.le_trans hrest (by omega)

theorem setFields_of_length (h : (setFields before fields).length = before.length + fields.length) :
    setFields before fields = before ++ fields := by
  induction fields generalizing before with
  | nil => exact (List.append_nil before).symm
  | cons field fields ih =>
    have hstep : setFields before (field :: fields) =
        setFields (setField field.1 field.2 before) fields := rfl
    rw [hstep, List.length_cons] at h
    rw [hstep]
    rcases setField_cases field.1 field.2 before with hnew | hlength
    · have hlength : (before ++ [(field.1, field.2)]).length = before.length + 1 := by simp
      rw [hnew] at h
      rw [hnew, ih (by omega), List.append_assoc, List.singleton_append]
    · have hle := setFields_length_le (setField field.1 field.2 before) fields
      omega

theorem setField_of_not_mem {α : Type} {name : String} {value : α} {fields : List (String × α)}
    (h : name ∉ fields.map (·.1)) : setField name value fields = fields ++ [(name, value)] := by
  induction fields with
  | nil => rfl
  | cons field fields ih =>
    obtain ⟨other, old⟩ := field
    obtain ⟨hne, hrest⟩ := List.ne_and_not_mem_of_not_mem_cons h
    rw [setField, if_neg (Ne.symm hne), ih hrest, List.cons_append]

theorem setFields_of_nodup (h : ((before ++ fields).map (·.1)).Nodup) :
    setFields before fields = before ++ fields := by
  induction fields generalizing before with
  | nil => exact (List.append_nil before).symm
  | cons field fields ih =>
    have hsplit : before ++ field :: fields = before ++ [field] ++ fields := by simp
    have hnew : field.1 ∉ before.map (·.1) := by
      rw [List.map_append, List.map_cons, List.nodup_append] at h
      intro hmem
      exact h.2.2 _ hmem _ List.mem_cons_self rfl
    rw [hsplit] at h ⊢
    rw [← ih h, setFields, List.foldl_cons, setField_of_not_mem hnew]
    rfl

/-- Of as many fields as there are names, those that are kept are the fields themselves. -/
theorem setFields_eq_iff {others : List (String × Value)} (hnodup : (fields.map (·.1)).Nodup)
    (hlength : others.length = fields.length) : setFields [] others = fields ↔ others = fields := by
  constructor
  · intro h
    rw [← h]
    exact (setFields_of_length (by rw [h, hlength]; exact (Nat.zero_add _).symm)).symm
  · intro h
    rw [h]
    exact setFields_of_nodup hnodup

end Json

namespace Value

mutual

/-- A value of JSON proper: without dates and times, with finite numbers only, and with no two fields of
one name in an object. -/
def IsJson : Value → Prop
  | real x => x.isFinite
  | date _ | time _ => False
  | list items => ItemsJson items
  | object fields => (fields.map (·.1)).Nodup ∧ FieldsJson fields
  | null | bool _ | int _ | text _ => True

def ItemsJson : List Value → Prop
  | [] => True
  | item :: items => IsJson item ∧ ItemsJson items

def FieldsJson : List (String × Value) → Prop
  | [] => True
  | (_, value) :: fields => IsJson value ∧ FieldsJson fields

end

mutual

/-- A value that JSON can spell: without dates and times, and with no two fields of one name. -/
def IsReadable : Value → Prop
  | date _ | time _ => False
  | list items => ItemsReadable items
  | object fields => (fields.map (·.1)).Nodup ∧ FieldsReadable fields
  | null | bool _ | int _ | real _ | text _ => True

def ItemsReadable : List Value → Prop
  | [] => True
  | item :: items => IsReadable item ∧ ItemsReadable items

def FieldsReadable : List (String × Value) → Prop
  | [] => True
  | (_, value) :: fields => IsReadable value ∧ FieldsReadable fields

end

mutual

theorem IsJson.readable : {value : Value} → value.IsJson → value.IsReadable
  | null, _ | bool _, _ | int _, _ | real _, _ | text _, _ => trivial
  | date _, json | time _, json => json.elim
  | list _, json => ItemsJson.readable json
  | object _, json => ⟨json.1, FieldsJson.readable json.2⟩

theorem ItemsJson.readable : {items : List Value} → ItemsJson items → ItemsReadable items
  | [], _ => trivial
  | _ :: _, json => ⟨IsJson.readable json.1, ItemsJson.readable json.2⟩

theorem FieldsJson.readable : {fields : List (String × Value)} → FieldsJson fields →
    FieldsReadable fields
  | [], _ => trivial
  | _ :: _, json => ⟨IsJson.readable json.1, FieldsJson.readable json.2⟩

end

mutual

def texts : Value → List String
  | text s => [s]
  | list items => itemTexts items
  | object fields => fieldTexts fields
  | _ => []

def itemTexts : List Value → List String
  | [] => []
  | item :: items => texts item ++ itemTexts items

def fieldTexts : List (String × Value) → List String
  | [] => []
  | (name, value) :: fields => name :: texts value ++ fieldTexts fields

end

variable (f : String → String)

mutual

/-- A value with another text for each.  Of fields that come to have one name the last value stays. -/
def mapTexts : Value → Value
  | text s => text (f s)
  | list items => list (mapItemTexts items)
  | object fields => object (Json.setFields [] (mapFieldTexts fields))
  | value => value

def mapItemTexts : List Value → List Value
  | [] => []
  | item :: items => mapTexts item :: mapItemTexts items

def mapFieldTexts : List (String × Value) → List (String × Value)
  | [] => []
  | (name, value) :: fields => (f name, mapTexts value) :: mapFieldTexts fields

end

variable {f}

theorem length_mapFieldTexts (fields : List (String × Value)) :
    (mapFieldTexts f fields).length = fields.length := by
  induction fields with
  | nil => rfl
  | cons field fields ih => exact congrArg Nat.succ ih

mutual

theorem mapTexts_eq_self_iff : (value : Value) → value.IsReadable →
    (value.mapTexts f = value ↔ ∀ s ∈ value.texts, f s = s)
  | null, _ | bool _, _ | int _, _ | real _, _ => iff_of_true rfl (List.forall_mem_nil _)
  | date _, readable | time _, readable => readable.elim
  | text s, _ => by rw [mapTexts, texts, List.forall_mem_singleton, text.injEq]
  | list items, readable => by rw [mapTexts, texts, list.injEq, mapItemTexts_eq_self_iff items readable]
  | object fields, readable => by
    rw [mapTexts, texts, object.injEq,
      Json.setFields_eq_iff readable.1 (length_mapFieldTexts fields),
      mapFieldTexts_eq_self_iff fields readable.2]

theorem mapItemTexts_eq_self_iff : (items : List Value) → ItemsReadable items →
    (mapItemTexts f items = items ↔ ∀ s ∈ itemTexts items, f s = s)
  | [], _ => iff_of_true rfl (List.forall_mem_nil _)
  | item :: items, readable => by
    rw [mapItemTexts, itemTexts, List.cons.injEq, List.forall_mem_append,
      mapTexts_eq_self_iff item readable.1, mapItemTexts_eq_self_iff items readable.2]

theorem mapFieldTexts_eq_self_iff : (fields : List (String × Value)) → FieldsReadable fields →
    (mapFieldTexts f fields = fields ↔ ∀ s ∈ fieldTexts fields, f s = s)
  | [], _ => iff_of_true rfl (List.forall_mem_nil _)
  | (name, value) :: fields, readable => by
    rw [mapFieldTexts, fieldTexts, List.cons.injEq, Prod.mk.injEq, List.forall_mem_append,
      List.forall_mem_cons, mapTexts_eq_self_iff value readable.1,
      mapFieldTexts_eq_self_iff fields readable.2]

end

end Value

end GridQuery
