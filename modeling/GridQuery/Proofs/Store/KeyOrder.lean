import GridQuery.Proofs.Json.KeyOrder
import GridQuery.Proofs.Store.StructuredEquality

/-!
# Canonical texts and the order of fields

The canonical text of an object has the fields of all objects in order.  That of a list has them as they
stand, and so has the text of a list that is a member of a reference: a value with the same fields in another
order has another text there, and an equality with the one does not find the other.
-/

namespace GridQuery

/-- Lists of texts with commas between them agree only text by text, if the texts are as long. -/
theorem intercalate_inj_of_length {texts others : List String}
    (h : List.Forall₂ (fun text other => text.length = other.length) texts others) :
    ",".intercalate texts = ",".intercalate others ↔ texts = others := by
  refine ⟨fun heq => ?_, congrArg _⟩
  induction h with
  | nil => rfl
  | @cons first other rest more hfirst hrest ih =>
    cases hrest with
    | nil => rw [show first = other from heq]
    | @cons second another rest more hsecond hrest =>
      rw [String.intercalate_cons_cons, String.intercalate_cons_cons, ← String.toList_inj] at heq
      simp only [String.toList_append, List.append_assoc] at heq
      obtain ⟨hsame, heq⟩ := List.append_inj heq hfirst
      rw [String.toList_inj.mp hsame, ih (String.toList_inj.mp (List.append_cancel_left heq))]

namespace Value
variable {u v : Value} {type : String}

/-- The lists that are written with their fields as they stand are the same: the values themselves, and in a
column of type `reference` their members. -/
def SameLists (type : String) : Value → Value → Prop
  | list items, list others =>
    if type = "reference" then
      List.Forall₂ (fun item other => (∃ inner, item = list inner) → item = other) items others
    else items = others
  | _, _ => True

theorem textObstacle?_eq_none_iff : u.textObstacle? = none ↔ u.obstacle? false Json.maxDepth = none := by
  cases u with
  | object fields => rw [textObstacle?, obstacle?_eq_none_iff, obstacle?_eq_none_iff]
  | _ => rfl

theorem legible_of_textObstacle? (readable : u.IsReadable) (h : u.textObstacle? = none) :
    u.Legible Json.maxDepth := by
  obtain ⟨shallow, short⟩ := (obstacle?_eq_none_iff false u Json.maxDepth).mp (textObstacle?_eq_none_iff.mp h)
  exact ⟨readable, short, shallow⟩

theorem Legible.mono {depth more : Nat} (h : u.Legible depth) (hmore : depth ≤ more) : u.Legible more :=
  ⟨h.readable, h.short, Nat.le_trans h.shallow hmore⟩

namespace Rearranged

theorem textObstacle?_eq_none (h : Rearranged u v) : u.textObstacle? = none ↔ v.textObstacle? = none := by
  rw [textObstacle?_eq_none_iff, textObstacle?_eq_none_iff]
  exact ⟨h.obstacle?_eq_none, h.symm.obstacle?_eq_none⟩

theorem legible (h : Rearranged u v) (hlegible : u.Legible Json.maxDepth) : v.Legible Json.maxDepth := by
  have hwritten := (obstacle?_eq_none_iff false u Json.maxDepth).mpr ⟨hlegible.shallow, hlegible.short⟩
  exact legible_of_textObstacle? (h.readable hlegible.readable)
    (textObstacle?_eq_none_iff.mpr (h.obstacle?_eq_none hwritten))

theorem scalarText?_eq_iff (h : Rearranged u v) (hlegible : u.Legible Json.maxDepth) :
    u.scalarText? = v.scalarText? ↔ ((∃ items, u = list items) → u = v) := by
  have hother := h.legible hlegible
  rcases h.cases with rfl | ⟨fields, others, rfl, rfl⟩ | ⟨items, others, rfl, rfl, -⟩
  · exact iff_of_true rfl fun _ => rfl
  · have hwritten := Json.write_true_of_rearranged h hlegible.readable
    refine iff_of_true ?_ ?_
    · rw [scalarText?, scalarText?, hwritten]
    · rintro ⟨items, hlist⟩
      cases hlist
  · rw [scalarText?, scalarText?, Option.some.injEq, String.ofList_inj, Json.write_false_inj hlegible hother]
    simp

theorem length_memberText (h : Rearranged u v) (readable : u.IsReadable) :
    u.memberText.length = v.memberText.length := by
  rcases h.cases with rfl | ⟨fields, others, rfl, rfl⟩ | ⟨items, others, rfl, rfl, -⟩
  · rfl
  · have hwritten := Json.write_true_of_rearranged h readable
    rw [memberText, memberText, scalarText?, scalarText?, hwritten]
  · have hlength := Json.length_write_of_rearranged h
    rw [memberText, memberText, scalarText?, scalarText?, Option.getD_some, Option.getD_some,
      String.length_ofList, String.length_ofList, hlength]

theorem memberText_eq_iff (h : Rearranged u v) (hlegible : u.Legible Json.maxDepth) :
    u.memberText = v.memberText ↔ ((∃ items, u = list items) → u = v) := by
  rw [← h.scalarText?_eq_iff hlegible]
  rcases h.cases with rfl | ⟨fields, others, rfl, rfl⟩ | ⟨items, others, rfl, rfl, -⟩
  · exact iff_of_true rfl rfl
  · simp [memberText, scalarText?]
  · simp [memberText, scalarText?]

theorem map_memberText_eq_iff {items others : List Value} (h : List.Forall₂ Rearranged items others)
    (hlegible : ∀ item ∈ items, item.Legible Json.maxDepth) :
    items.map memberText = others.map memberText ↔
      List.Forall₂ (fun item other => (∃ inner, item = list inner) → item = other) items others := by
  induction h with
  | nil => exact iff_of_true rfl .nil
  | cons first _ ih =>
    obtain ⟨hfirst, hrest⟩ := List.forall_mem_cons.mp hlegible
    rw [List.map_cons, List.map_cons, List.cons.injEq, List.forall₂_cons, first.memberText_eq_iff hfirst,
      ih hrest]

theorem forall₂_length_memberText {items others : List Value} (h : List.Forall₂ Rearranged items others)
    (hlegible : ∀ item ∈ items, item.Legible Json.maxDepth) :
    List.Forall₂ (fun text other => text.length = other.length) (items.map memberText)
      (others.map memberText) := by
  induction h with
  | nil => exact .nil
  | cons first _ ih =>
    obtain ⟨hfirst, hrest⟩ := List.forall_mem_cons.mp hlegible
    exact .cons (first.length_memberText hfirst.readable) (ih hrest)

/-- The texts agree if and only if the lists in them do that are written as they stand. -/
theorem canonicalText?_eq_iff (h : Rearranged u v) (hlegible : u.Legible Json.maxDepth) (type : String) :
    u.canonicalText? type = v.canonicalText? type ↔ SameLists type u v := by
  have hscalar := h.scalarText?_eq_iff hlegible
  rcases h.cases with rfl | ⟨fields, others, rfl, rfl⟩ | ⟨items, others, rfl, rfl, hitems⟩
  · refine iff_of_true rfl ?_
    cases u with
    | list items =>
      rw [SameLists]
      split
      · exact List.forall₂_same.mpr fun _ _ _ => rfl
      · rfl
    | _ => trivial
  · exact iff_of_true (hscalar.mpr fun ⟨_, hlist⟩ => by cases hlist) trivial
  · by_cases htype : type = "reference"
    · have hmembers : ∀ item ∈ items, item.Legible Json.maxDepth := by
        have hlegible : (list items).Legible (Json.maxDepth - 1 + 1) := hlegible
        exact fun item hitem => (hlegible.of_list item hitem).mono (Nat.sub_le _ _)
      rw [htype, canonicalText?_list, canonicalText?_list, Option.some.injEq,
        intercalate_inj_of_length (forall₂_length_memberText hitems hmembers),
        map_memberText_eq_iff hitems hmembers, SameLists, if_pos rfl]
    · rw [canonicalText?, canonicalText?, if_neg htype, if_neg htype, hscalar, SameLists, if_neg htype]
      simp

end Rearranged

end Value

namespace Store
variable {u v : Value}

/-- Values that are equal up to the order of fields are both written or both not.  Their canonical texts are
the same if and only if the lists in them are that are written as they stand; so those of objects always are.
In a column of structured values, an equality that asks for the one finds a row with the other likewise. -/
theorem key_order_iff (readable : u.IsReadable) (h : u.Rearranged v) :
    (u.textObstacle? = none ↔ v.textObstacle? = none) ∧
    (u.textObstacle? = none → ∀ type,
      u.canonicalText? type = v.canonicalText? type ↔ Value.SameLists type u v) ∧
    (u.textObstacle? = none → (∃ items, v = .list items) ∨ (∃ fields, v = .object fields) →
      ∀ (setting : Setting) (store : Store) (tableId rowId : Int) (schema : Schema) (contents : Contents)
        (column : Column) (criterion : Criterion),
      ((store.columns.getD []).map (·.2.id)).Nodup → store.schema tableId = .ok schema →
      store.Written setting.zone contents → schema.column? criterion.columnId = some column →
      isStructured column.type = true → criterion.operator = Operator.name .equals →
      coerce setting.zone column.type criterion.value = .ok (.usable u) →
      contents rowId column.id = some v →
      ∃ equal, criterion.condition? .standard setting schema = some equal ∧
        (equal.truth (store.cellsAt rowId) = some true ↔ Value.SameLists column.type u v)) := by
  refine ⟨h.textObstacle?_eq_none, ?_, ?_⟩
  · intro hwritten
    exact h.canonicalText?_eq_iff (Value.legible_of_textObstacle? readable hwritten)
  · intro hwritten hnested setting store tableId rowId schema contents column criterion keyed hschema written
      hcolumn htype hoperator hcoerce hcell
    have hlegible := Value.legible_of_textObstacle? readable hwritten
    have htypeName := ne_reference_of_structured htype
    have hnot : (u.isNull = false ∧ ∀ text, u ≠ .text text) ∧ v.isNull = false ∧ ∀ text, v ≠ .text text := by
      rcases h.cases with rfl | ⟨_, _, rfl, rfl⟩ | ⟨_, _, rfl, rfl, -⟩
      · rcases hnested with ⟨_, rfl⟩ | ⟨_, rfl⟩ <;> exact ⟨⟨rfl, nofun⟩, rfl, nofun⟩
      · exact ⟨⟨rfl, nofun⟩, rfl, nofun⟩
      · exact ⟨⟨rfl, nofun⟩, rfl, nofun⟩
    obtain ⟨⟨hasksSome, hasksNested⟩, hholdsSome, hholdsNested⟩ := hnot
    have hnull : criterion.value.isNull = false := by
      cases hvalue : criterion.value with
      | null =>
        rw [hvalue] at hcoerce
        cases hcoerce
        exact hasksSome
      | _ => rfl
    obtain ⟨asked, hasked, hne⟩ :=
      Value.exists_canonicalText? htypeName readable hasksSome hasksNested
    obtain ⟨text, htext, -⟩ :=
      Value.exists_canonicalText? htypeName (h.readable readable) hholdsSome hholdsNested
    have hequal := @Criterion.condition?_equals setting schema criterion column hcolumn htype hnull hoperator
    rw [Value.sought?_of_usable hcoerce, hasked, Option.filter_some, if_pos (decide_eq_true hne)] at hequal
    have hid : column.id = criterion.columnId := by simpa using List.find?_some hcolumn
    have hcolumnType : store.columnType column.id = column.type :=
      columnType_of_schema keyed hschema (hid ▸ hcolumn)
    refine ⟨_, hequal, ?_⟩
    rw [someCell_textIs_iff written hcolumnType hcell htext, ← h.canonicalText?_eq_iff hlegible, hasked,
      htext, Option.some.injEq]

/-- A table of profiles: an object, and a list that holds the same object. -/
def profiles : Store :=
  let table := (empty.addTable 7).addColumn 7 ⟨1, "profile", "json", 0, none⟩
  let profile := .object [("b", .int 2), ("a", .int 1)]
  (table.insertRow .utc ⟨1, 7, ⟨0, Reading.zero_lt⟩⟩ [(1, profile)]).insertRow .utc
    ⟨2, 7, ⟨0, Reading.zero_lt⟩⟩ [(1, .list [profile])]

theorem grown_profiles :
    Grown .utc profiles ((Contents.writeRow (fun _ _ => none) 1
      [(1, .object [("b", .int 2), ("a", .int 1)])]).writeRow
      2 [(1, .list [.object [("b", .int 2), ("a", .int 1)]])]) := by
  refine .insertRow _ _ (.insertRow _ _ (.addColumn 7 _ (.addTable 7 .empty) ?_ ?_))
  all_goals simp [addTable, empty, emptyOf]

/-- The object is found whichever of its fields comes first. -/
theorem key_order_iff_profiles :
    let setting : Setting := ⟨.utc, ⟨⟨0, Reading.zero_lt⟩, none⟩, ⟨true⟩⟩
    let schema : Schema := ⟨[⟨1, "profile", "json", 0, none⟩]⟩
    let asked : Value := .object [("a", .int 1), ("b", .int 2)]
    let stored : Value := .object [("b", .int 2), ("a", .int 1)]
    let criterion : Criterion := ⟨1, "equals", asked, .null, none, none, by decide, by decide⟩
    (∀ type, asked.canonicalText? type = stored.canonicalText? type) ∧
      ∃ equal, criterion.condition? .standard setting schema = some equal ∧
        equal.truth (profiles.cellsAt 1) = some true := by
  intro setting schema asked stored criterion
  have readable : asked.IsReadable := ⟨by decide, trivial, trivial, trivial⟩
  have hmoved : asked.Rearranged stored := .fields (List.Perm.swap _ _ _)
  obtain ⟨-, htexts, hfound⟩ := key_order_iff readable hmoved
  have hwritten : asked.textObstacle? = none := by cbv
  have hcell : Contents.writeRow (Contents.writeRow (fun _ _ => none) 1
      [(1, .object [("b", .int 2), ("a", .int 1)])]) 2
      [(1, .list [.object [("b", .int 2), ("a", .int 1)]])] 1 1 = some stored := by cbv
  obtain ⟨equal, hequal, htruth⟩ := hfound hwritten (.inr ⟨_, rfl⟩) setting profiles 7 1 schema _ _ criterion
    grown_profiles.keyed (by cbv) grown_profiles.written (by cbv) (by cbv) rfl (by cbv) hcell
  exact ⟨fun type => (htexts hwritten type).mpr trivial, equal, hequal, htruth.mpr trivial⟩

/-- The list is not found by a list of an object with the same fields. -/
theorem key_order_fails_profiles :
    let setting : Setting := ⟨.utc, ⟨⟨0, Reading.zero_lt⟩, none⟩, ⟨true⟩⟩
    let schema : Schema := ⟨[⟨1, "profile", "json", 0, none⟩]⟩
    let asked : Value := .list [.object [("a", .int 1), ("b", .int 2)]]
    let stored : Value := .list [.object [("b", .int 2), ("a", .int 1)]]
    let criterion : Criterion := ⟨1, "equals", asked, .null, none, none, by decide, by decide⟩
    asked.Rearranged stored ∧
      asked.canonicalText? "json" = some "[\x7b\"a\": 1, \"b\": 2\x7d]" ∧
      stored.canonicalText? "json" = some "[\x7b\"b\": 2, \"a\": 1\x7d]" ∧
      profiles.schema 7 = .ok schema ∧
      (Projections.of .utc "json" stored).text = stored.canonicalText? "json" ∧
      ∃ predicate, Predicate.ofCriteria .standard setting schema 7 [criterion] "" = .ok predicate ∧
        (profiles.matching predicate).map (·.id) = [] := by
  intro setting schema asked stored criterion
  have hmoved : asked.Rearranged stored :=
    @Value.Rearranged.item _ _ [] [] (.fields (List.Perm.swap _ _ _))
  exact ⟨hmoved, by cbv, by cbv, by cbv, by cbv, _, by cbv, by cbv⟩

end Store

end GridQuery
