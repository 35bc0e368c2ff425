import GridQuery.Proofs.Json.Writing

/-!
# Writing what was read

Whatever the reader takes from a text lies within its limits, so it is read again as it is once it has been
written.  Only repeated names and the spelling of numbers are lost on the way.
-/

namespace GridQuery

namespace Json
variable {digits : List Char}

theorem ofChars_lt (h : AllDigits digits) : ofChars digits < 10 ^ digits.length := by
  induction digits with
  | nil => exact Nat.one_pos
  | cons c digits ih =>
    obtain ⟨hc, hdigits⟩ := List.forall_mem_cons.mp h
    have hfirst : ofChars [c] < 10 := by
      have hd : ∀ d < 10, ofChars [Nat.digitChar d] < 10 := by decide
      obtain ⟨d, hd', rfl⟩ := Text.exists_digitChar hc
      exact hd d hd'
    have hrest := ih hdigits
    have hsplit := ofChars_append (List.forall_mem_singleton.mpr hc) hdigits
    rw [List.singleton_append] at hsplit
    rw [hsplit, List.length_cons, Nat.pow_succ]
    calc ofChars [c] * 10 ^ digits.length + ofChars digits
        < ofChars [c] * 10 ^ digits.length + 10 ^ digits.length := Nat.add_lt_add_left hrest _
      _ = (ofChars [c] + 1) * 10 ^ digits.length := (Nat.succ_mul _ _).symm
      _ ≤ 10 * 10 ^ digits.length := Nat.mul_le_mul_right _ hfirst
      _ = 10 ^ digits.length * 10 := Nat.mul_comm _ _

theorem length_numeral_ofChars (h : AllDigits digits) (hne : digits ≠ []) :
    (Decimal.numeral (ofChars digits)).length ≤ digits.length :=
  (Nat.length_toDigits_le_iff (by decide) (List.length_pos_of_ne_nil hne)).mpr (ofChars_lt h)

section Fields
variable {α : Type} {P : α → Prop} {name : String} {value : α} {fields : List (String × α)}

theorem forall_mem_setField (hvalue : P value) (h : ∀ field ∈ fields, P field.2) :
    ∀ field ∈ setField name value fields, P field.2 := by
  induction fields with
  | nil => exact List.forall_mem_singleton.mpr hvalue
  | cons field fields ih =>
    obtain ⟨hfirst, hrest⟩ := List.forall_mem_cons.mp h
    rw [setField]
    split
    · exact List.forall_mem_cons.mpr ⟨hvalue, hrest⟩
    · exact List.forall_mem_cons.mpr ⟨hfirst, ih hrest⟩

theorem map_fst_setField (name : String) (value : α) (fields : List (String × α)) :
    (setField name value fields).map (·.1) =
      if name ∈ fields.map (·.1) then fields.map (·.1) else fields.map (·.1) ++ [name] := by
  induction fields with
  | nil => rfl
  | cons field fields ih =>
    obtain ⟨other, old⟩ := field
    rw [setField]
    by_cases hother : other = name
    · simp [hother]
    · have hname : ¬ name = other := Ne.symm hother
      rw [if_neg hother, List.map_cons, ih]
      simp only [List.map_cons, List.mem_cons, hname, false_or]
      split <;> rfl

theorem nodup_setField (h : (fields.map (·.1)).Nodup) :
    ((setField name value fields).map (·.1)).Nodup := by
  rw [map_fst_setField]
  split
  · exact h
  · rename_i hnew
    refine List.nodup_append.mpr ⟨h, List.nodup_singleton name, ?_⟩
    rintro other hother _ hmem rfl
    exact hnew (List.mem_singleton.mp hmem ▸ hother)

end Fields

section Pieces
variable {P : Value → Prop} {before fields : List (String × Value)}

theorem forall_mem_setFields (hbefore : ∀ field ∈ before, P field.2) (h : ∀ field ∈ fields, P field.2) :
    ∀ field ∈ setFields before fields, P field.2 := by
  induction fields generalizing before with
  | nil => exact hbefore
  | cons field fields ih =>
    obtain ⟨hfirst, hrest⟩ := List.forall_mem_cons.mp h
    exact ih (forall_mem_setField hfirst hbefore) hrest

theorem nodup_setFields (h : (before.map (·.1)).Nodup) :
    ((setFields before fields).map (·.1)).Nodup := by
  induction fields generalizing before with
  | nil => exact h
  | cons field fields ih => exact ih (nodup_setField h)

end Pieces

end Json

/-- A value that is read again when it has been written: one that JSON can spell within the limits. -/
structure Value.Legible (depth : Nat) (value : Value) : Prop where
  readable : value.IsReadable
  short : value.Short
  shallow : value.depth ≤ depth

namespace Value
variable {depth : Nat} {items : List Value} {fields : List (String × Value)}

theorem legible_list (h : ∀ item ∈ items, item.Legible depth) : (list items).Legible (depth + 1) := by
  induction items with
  | nil => exact ⟨trivial, trivial, Nat.succ_le_succ (Nat.zero_le depth)⟩
  | cons item items ih =>
    obtain ⟨hfirst, hrest⟩ := List.forall_mem_cons.mp h
    obtain ⟨readable, short, shallow⟩ := ih hrest
    have hmax := Nat.max_le.mpr ⟨hfirst.shallow, Nat.le_of_succ_le_succ shallow⟩
    exact ⟨⟨hfirst.readable, readable⟩, ⟨hfirst.short, short⟩, Nat.succ_le_succ hmax⟩

theorem legible_object (hnodup : (fields.map (·.1)).Nodup)
    (h : ∀ field ∈ fields, field.2.Legible depth) : (object fields).Legible (depth + 1) := by
  induction fields with
  | nil => exact ⟨⟨List.nodup_nil, trivial⟩, trivial, Nat.succ_le_succ (Nat.zero_le depth)⟩
  | cons field fields ih =>
    obtain ⟨hfirst, hrest⟩ := List.forall_mem_cons.mp h
    obtain ⟨readable, short, shallow⟩ := ih (List.nodup_cons.mp hnodup).2 hrest
    have hmax := Nat.max_le.mpr ⟨hfirst.shallow, Nat.le_of_succ_le_succ shallow⟩
    exact ⟨⟨hnodup, hfirst.readable, readable.2⟩, ⟨hfirst.short, short⟩, Nat.succ_le_succ hmax⟩

end Value

namespace Json
variable {depth : Nat} {text rest : List Char} {value : Value}

theorem Unsigned.legible {negative : Bool} (h : Unsigned 4300 negative value text rest) :
    value.Legible depth := by
  cases h with
  | real => exact ⟨trivial, trivial, Nat.zero_le depth⟩
  | @int digits _ _ whole short =>
    refine ⟨trivial, ?_, Nat.zero_le depth⟩
    have hlength := length_numeral_ofChars whole.all whole.nonempty
    have habs : (if negative then -(ofChars digits : Int) else ofChars digits).natAbs = ofChars digits := by
      split <;> simp
    rw [Value.Short, habs]
    exact Nat.le_trans hlength short

theorem Number.legible (h : Number 4300 value text rest) : value.Legible depth := by
  cases h with
  | positive h => exact h.legible
  | negative h => exact h.legible
  | infinity => exact ⟨trivial, trivial, Nat.zero_le depth⟩
  | negativeInfinity => exact ⟨trivial, trivial, Nat.zero_le depth⟩

def Piece.Legible (depth : Nat) : Piece → Prop
  | .value found => found.Legible depth
  | .items found => ∀ item ∈ found, item.Legible depth
  | .fields found => ∀ field ∈ found, field.2.Legible depth

theorem Denotes.legible {lone : Option Char} {piece : Piece} (h : Denotes lone 4300 depth piece text rest) :
    piece.Legible depth := by
  induction h with
  | number h => exact h.legible
  | list _ _ ih => exact Value.legible_list ih
  | object _ _ ih =>
    exact Value.legible_object (nodup_setFields List.nodup_nil) (forall_mem_setFields nofun ih)
  | lastItem _ _ ih => exact List.forall_mem_singleton.mpr ih
  | nextItem _ _ _ _ ih more => exact List.forall_mem_cons.mpr ⟨ih, more⟩
  | lastField _ _ _ _ _ ih => exact List.forall_mem_singleton.mpr ih
  | nextField _ _ _ _ _ _ _ ih more => exact List.forall_mem_cons.mpr ⟨ih, more⟩
  | noItems => exact Value.legible_list nofun
  | noFields => exact Value.legible_object List.nodup_nil nofun
  | _ => exact ⟨trivial, trivial, Nat.zero_le _⟩

theorem legible_of_read {text : String} (h : read depth text = .ok value) : value.Legible depth := by
  obtain ⟨_, _, _, denotes, _⟩ := read_eq_ok_iff.mp h
  exact denotes.legible

theorem read_write_of_legible (h : value.Legible depth) :
    read depth (String.ofList (write false value)) = .ok value :=
  read_write h.readable h.short h.shallow

mutual

theorem unwritable?_eq_none : {value : Value} → value.IsReadable → unwritable? value = none
  | .null, _ | .bool _, _ | .int _, _ | .real _, _ | .text _, _ => rfl
  | .date _, readable | .time _, readable => readable.elim
  | .list _, readable => unwritableItem?_eq_none readable
  | .object _, readable => unwritableField?_eq_none readable.2

theorem unwritableItem?_eq_none : {items : List Value} → Value.ItemsReadable items →
    unwritableItem? items = none
  | [], _ => rfl
  | _ :: _, readable => by
    rw [unwritableItem?, unwritable?_eq_none readable.1, unwritableItem?_eq_none readable.2]
    rfl

theorem unwritableField?_eq_none : {fields : List (String × Value)} → Value.FieldsReadable fields →
    unwritableField? fields = none
  | [], _ => rfl
  | _ :: _, readable => by
    rw [unwritableField?, unwritable?_eq_none readable.1, unwritableField?_eq_none readable.2]
    rfl

end

end Json

end GridQuery
