import GridQuery.Proofs.Json.Reading
import GridQuery.Proofs.Steps
import GridQuery.Proofs.Text.Percent
import GridQuery.Request.Basic
import Mathlib.Data.List.Forall2

/-!
# Filters are read all or none

What a payload has to hold for a criterion, what a text of filters has to stand for, and what becomes of
texts that stand for nothing or for something else.
-/

namespace GridQuery

namespace Value

/-- A value has a field under its first name, or else under its second. -/
def HasUnder (payload : Value) (name other : String) (value : Value) : Prop :=
  payload.field? name = some value ∨
    payload.field? name = none ∧ payload.field? other = some value

def LacksUnder (payload : Value) (name other : String) : Prop :=
  payload.field? name = none ∧ payload.field? other = none

variable {payload value : Value} {name other : String}

theorem fieldUnder_eq_some_iff : (Criterion.fieldUnder payload name other).2 = some value ↔
    payload.HasUnder name other value := by
  unfold Criterion.fieldUnder HasUnder
  cases payload.field? name <;> cases payload.field? other <;> simp

theorem fieldUnder_eq_none_iff : (Criterion.fieldUnder payload name other).2 = none ↔
    payload.LacksUnder name other := by
  unfold Criterion.fieldUnder LacksUnder
  cases payload.field? name <;> cases payload.field? other <;> simp

theorem fieldUnder_getD_eq_iff : (Criterion.fieldUnder payload name other).2.getD .null = value ↔
    payload.HasUnder name other value ∨ payload.LacksUnder name other ∧ value = .null := by
  rw [← fieldUnder_eq_some_iff, ← fieldUnder_eq_none_iff]
  cases (Criterion.fieldUnder payload name other).2 <;> simp [eq_comm]

end Value

namespace Criterion
variable {field : String × Option Value} {payload : Value} {criterion : Criterion}

theorem checkId_eq_ok_iff {id : { id : Int // 0 < id }} :
    checkId field = .ok id ↔ field.2 = some (.int id.1) := by
  obtain ⟨name, value⟩ := field
  obtain ⟨n, hn⟩ := id
  constructor
  · intro h
    unfold checkId at h
    split at h
    · split at h
      · cases h
        exact congrArg Prod.snd ‹_›
      · cases h
    · cases h
    · cases h
  · rintro rfl
    exact dif_pos hn

theorem checkText_eq_ok_iff {s : { s : String // s ≠ "" }} :
    checkText field = .ok s ↔ field.2 = some (.text s.1) := by
  obtain ⟨name, value⟩ := field
  obtain ⟨s, hs⟩ := s
  constructor
  · intro h
    unfold checkText at h
    split at h
    · split at h
      · cases h
        exact congrArg Prod.snd ‹_›
      · cases h
    · cases h
    · cases h
  · rintro rfl
    exact dif_pos hs

theorem checkEcho_eq_ok_iff {echo : Option String} :
    checkEcho true field = .ok echo ↔
      ∃ s, echo = some s ∧ s ≠ "" ∧ field.2 = some (.text s) := by
  change (checkText field).map _ = _ ↔ _
  rw [Steps.map_eq_ok_iff]
  constructor
  · rintro ⟨s, hs, rfl⟩
    exact ⟨s.1, rfl, s.2, checkText_eq_ok_iff.mp hs⟩
  · rintro ⟨s, rfl, hs, hfield⟩
    exact ⟨⟨s, hs⟩, checkText_eq_ok_iff.mpr hfield, rfl⟩

/-- What a payload holds for a criterion whose echoes have to be given. -/
structure DescribedBy (criterion : Criterion) (payload : Value) : Prop where
  columnId : payload.HasUnder "columnId" "column_id" (.int criterion.columnId)
  operator : payload.field? "operator" = some (.text criterion.operator)
  value : (payload.field? "value").getD .null = criterion.value
  secondValue : payload.HasUnder "secondValue" "second_value" criterion.secondValue ∨
    payload.LacksUnder "secondValue" "second_value" ∧ criterion.secondValue = .null
  columnName : ∃ name, criterion.columnName = some name ∧ name ≠ "" ∧
    payload.HasUnder "columnName" "column_name" (.text name)
  columnType : ∃ type, criterion.columnType = some type ∧ type ≠ "" ∧
    payload.HasUnder "columnType" "column_type" (.text type)

theorem ofPayload_eq_ok_iff : ofPayload true payload = .ok criterion ↔
    criterion.DescribedBy payload := by
  constructor
  · intro h
    unfold ofPayload at h
    split at h
    · dsimp only at h
      split at h
      · rename_i id operator name type hid hoperator hname htype
        cases h
        exact {
          columnId := Value.fieldUnder_eq_some_iff.mp (checkId_eq_ok_iff.mp hid)
          operator := checkText_eq_ok_iff.mp hoperator
          value := rfl
          secondValue := Value.fieldUnder_getD_eq_iff.mp rfl
          columnName := by
            simpa only [Value.fieldUnder_eq_some_iff] using checkEcho_eq_ok_iff.mp hname
          columnType := by
            simpa only [Value.fieldUnder_eq_some_iff] using checkEcho_eq_ok_iff.mp htype }
      · cases h
    · cases h
  · intro h
    obtain ⟨fields, rfl⟩ : ∃ fields, payload = .object fields := by
      cases payload with
      | object fields => exact ⟨fields, rfl⟩
      | _ => cases h.operator
    have hid : checkId (fieldUnder (.object fields) "columnId" "column_id") =
        .ok ⟨criterion.columnId, criterion.columnId_pos⟩ :=
      checkId_eq_ok_iff.mpr (Value.fieldUnder_eq_some_iff.mpr h.columnId)
    have hoperator : checkText ("operator", (Value.object fields).field? "operator") =
        .ok ⟨criterion.operator, criterion.operator_ne⟩ := checkText_eq_ok_iff.mpr h.operator
    have hname := checkEcho_eq_ok_iff.mpr
      (by simpa only [← Value.fieldUnder_eq_some_iff] using h.columnName)
    have htype := checkEcho_eq_ok_iff.mpr
      (by simpa only [← Value.fieldUnder_eq_some_iff] using h.columnType)
    rw [ofPayload]
    rw [hid, hoperator, hname, htype, h.value, Value.fieldUnder_getD_eq_iff.mpr h.secondValue]

/-- The criteria of some payloads, one for each in their order, are all read or none. -/
theorem mapM_ofPayload_eq_ok_iff {items : List Value} {criteria : List Criterion} :
    items.mapM (ofPayload true) = .ok criteria ↔ List.Forall₂ DescribedBy criteria items := by
  rw [Steps.mapM_eq_ok_iff]
  induction items generalizing criteria with
  | nil => simp
  | cons item items ih =>
    cases criteria with
    | nil => simp
    | cons criterion criteria =>
      rw [List.map_cons, List.map_cons, List.cons.injEq, ih, ofPayload_eq_ok_iff, List.forall₂_cons]

end Criterion

theorem criteriaOf_list_iff {items : List Value} {criteria : List Criterion} :
    criteriaOf (.list items) = criteria ↔
      List.Forall₂ Criterion.DescribedBy criteria items ∨
      criteria = [] ∧ ¬ ∃ others, List.Forall₂ Criterion.DescribedBy others items := by
  simp only [← Criterion.mapM_ofPayload_eq_ok_iff, criteriaOf]
  cases items.mapM (Criterion.ofPayload true) with
  | ok found => simp [Except.toOption]
  | error errors => simp [Except.toOption, eq_comm]

/-- A raw text stands for a text: its percent signs and digits give the bytes of that in UTF-8. -/
def StandsFor (raw text : String) : Prop :=
  (Text.Percent.parts raw.toList).flatMap Text.Percent.Part.bytes =
    text.toList.flatMap String.utf8EncodeChar

/-- A raw text stands for a JSON array of values, within the limits of the reader. -/
def Lists (raw : String) (items : List Value) : Prop :=
  ∃ text, StandsFor raw text ∧ Json.SpellsWithin 4300 Json.maxDepth text (.list items)

/-- A raw text stands for a JSON array of payloads, one for each criterion in their order. -/
def Describes (raw : String) (criteria : List Criterion) : Prop :=
  ∃ items, Lists raw items ∧ List.Forall₂ Criterion.DescribedBy criteria items

/-- A raw text stands for one whose brackets nest too deep to be read. -/
def NestsTooDeep (raw : String) (array : Bool) : Prop :=
  ∃ text, StandsFor raw text ∧ Json.read Json.maxDepth text = .error (.tooDeep array)

/-- A raw text stands for one that is JSON but for halves of surrogate pairs. -/
def StandsForHalves (raw : String) : Prop :=
  ∃ text, StandsFor raw text ∧ Json.SpellsHalves 4300 Json.maxDepth text

/-- What is in the way of reading a raw text. -/
inductive FiltersStop (raw : String) : Impasse → Prop
  | reading {array : Bool} (h : NestsTooDeep raw array) : FiltersStop raw (.reading array)
  | unpaired (h : StandsForHalves raw) : FiltersStop raw .unpaired

section Reading
variable {raw text : String} {items : List Value} {array : Bool} {criteria : List Criterion}

theorem decode?_eq_some_iff_standsFor :
    Text.Percent.decode? raw.toList = some text.toList ↔ StandsFor raw text :=
  Text.Percent.decode?_eq_some_iff

theorem StandsFor.unique {other : String} (h : StandsFor raw text) (h' : StandsFor raw other) :
    text = other := by
  rw [← decode?_eq_some_iff_standsFor] at h h'
  exact String.toList_injective (Option.some.inj (h.symm.trans h'))

theorem standsFor_self (h : '%' ∉ text.toList) : StandsFor text text := by
  rw [StandsFor, Text.Percent.parts_of_not_mem h, List.flatMap_map]
  rfl

theorem Lists.unique {others : List Value} (h : Lists raw items) (h' : Lists raw others) :
    items = others := by
  obtain ⟨text, hstands, hspells⟩ := h
  obtain ⟨other, hother, hspellsOther⟩ := h'
  rw [← hstands.unique hother, ← Json.read_eq_ok_iff, Json.read_eq_ok_iff.mpr hspells] at hspellsOther
  cases hspellsOther
  rfl

theorem StandsFor.readFilters (h : StandsFor raw text) : readFilters raw =
    match Json.read Json.maxDepth text with
    | .ok value => .ok (criteriaOf value)
    | .error (.tooDeep array) => .error (.reading array)
    | .error .unpaired => .error .unpaired
    | .error _ => .ok [] := by
  have hdecode := decode?_eq_some_iff_standsFor.mpr h
  cases hread : Json.read Json.maxDepth text with
  | ok value => simp only [GridQuery.readFilters, hdecode, String.ofList_toList, hread]
  | error fault =>
    cases fault <;> simp only [GridQuery.readFilters, hdecode, String.ofList_toList, hread]

theorem readFilters_of_not_standsFor (h : ¬ ∃ text, StandsFor raw text) :
    readFilters raw = .ok [] := by
  cases hdecode : Text.Percent.decode? raw.toList with
  | none => rw [readFilters, hdecode]
  | some chars =>
    refine absurd ⟨String.ofList chars, decode?_eq_some_iff_standsFor.mp ?_⟩ h
    rw [hdecode, String.toList_ofList]

theorem readFilters_eq_error_iff {impasse : Impasse} :
    readFilters raw = .error impasse ↔ FiltersStop raw impasse := by
  constructor
  · intro h
    by_cases hstands : ∃ text, StandsFor raw text
    · obtain ⟨text, hstands⟩ := hstands
      rw [hstands.readFilters] at h
      split at h
      · cases h
      · cases h
        exact .reading ⟨text, hstands, ‹_›⟩
      · cases h
        exact .unpaired ⟨text, hstands, Json.read_eq_unpaired_iff.mp ‹_›⟩
      · cases h
    · rw [readFilters_of_not_standsFor hstands] at h
      cases h
  · intro h
    cases h with
    | reading h =>
      obtain ⟨text, hstands, hread⟩ := h
      rw [hstands.readFilters, hread]
    | unpaired h =>
      obtain ⟨text, hstands, halves⟩ := h
      rw [hstands.readFilters, Json.read_eq_unpaired_iff.mpr halves]

theorem readFilters_of_not_lists (hgoes : ¬ ∃ impasse, FiltersStop raw impasse)
    (h : ¬ ∃ items, Lists raw items) : readFilters raw = .ok [] := by
  by_cases hstands : ∃ text, StandsFor raw text
  · obtain ⟨text, hstands⟩ := hstands
    rw [hstands.readFilters]
    split
    · rename_i value hread
      cases value with
      | list items => exact absurd ⟨items, text, hstands, Json.read_eq_ok_iff.mp hread⟩ h
      | _ => rfl
    · exact absurd ⟨_, .reading ⟨text, hstands, ‹_›⟩⟩ hgoes
    · exact absurd ⟨_, .unpaired ⟨text, hstands, Json.read_eq_unpaired_iff.mp ‹_›⟩⟩ hgoes
    · rfl
  · exact readFilters_of_not_standsFor hstands

theorem Lists.readFilters (h : Lists raw items) : readFilters raw = .ok (criteriaOf (.list items)) := by
  obtain ⟨text, hstands, hspells⟩ := h
  rw [hstands.readFilters, Json.read_eq_ok_iff.mpr hspells]

theorem readFilters_isOk_iff :
    (∃ criteria, readFilters raw = .ok criteria) ↔ ¬ ∃ impasse, FiltersStop raw impasse := by
  simp only [← readFilters_eq_error_iff]
  cases readFilters raw <;> simp

theorem NestsTooDeep.maxDepth_lt (h : NestsTooDeep raw array) (hstands : StandsFor raw text) :
    Json.maxDepth < Json.opens text.toList := by
  obtain ⟨other, hother, hread⟩ := h
  rw [hstands.unique hother]
  exact Json.lt_opens hread

theorem readFilters_eq_ok_iff : readFilters raw = .ok criteria ↔
    Describes raw criteria ∨ criteria = [] ∧ (¬ ∃ impasse, FiltersStop raw impasse) ∧
      ¬ ∃ others, Describes raw others := by
  by_cases hlists : ∃ items, Lists raw items
  · obtain ⟨items, hlists⟩ := hlists
    have hgoes := readFilters_isOk_iff.mp ⟨_, hlists.readFilters⟩
    have hdescribes (criteria : List Criterion) : Describes raw criteria ↔
        List.Forall₂ Criterion.DescribedBy criteria items := by
      refine ⟨?_, fun h => ⟨items, hlists, h⟩⟩
      rintro ⟨others, hothers, h⟩
      rwa [hlists.unique hothers]
    rw [hlists.readFilters, Except.ok.injEq, criteriaOf_list_iff, and_iff_right hgoes]
    simp only [hdescribes]
  · have hnone (others : List Criterion) : ¬ Describes raw others := fun ⟨items, h, _⟩ => hlists ⟨items, h⟩
    rw [or_iff_right (hnone criteria), and_iff_left (not_exists.mpr hnone)]
    constructor
    · intro h
      have hgoes := readFilters_isOk_iff.mp ⟨_, h⟩
      rw [readFilters_of_not_lists hgoes hlists, Except.ok.injEq] at h
      exact ⟨h.symm, hgoes⟩
    · rintro ⟨rfl, hgoes⟩
      exact readFilters_of_not_lists hgoes hlists

end Reading

/-- Filters are read unless their brackets nest too deep, which takes more of them than may nest, or they
are JSON but for halves of surrogate pairs.  They are one criterion for each payload of an array, if each
payload describes one, and otherwise none. -/
theorem readFilters_all_or_none (raw : String) :
    ((∃ criteria, readFilters raw = .ok criteria) ↔ ¬ ∃ impasse, FiltersStop raw impasse) ∧
    (∀ array text, NestsTooDeep raw array → StandsFor raw text →
      Json.maxDepth < Json.opens text.toList) ∧
    (readFilters raw = .error .unpaired ↔ StandsForHalves raw) ∧
    ∀ criteria, readFilters raw = .ok criteria ↔
      Describes raw criteria ∨ criteria = [] ∧ (¬ ∃ impasse, FiltersStop raw impasse) ∧
        ¬ ∃ others, Describes raw others := by
  refine ⟨readFilters_isOk_iff, fun _ _ => NestsTooDeep.maxDepth_lt, ?_, fun _ => readFilters_eq_ok_iff⟩
  rw [readFilters_eq_error_iff]
  constructor
  · intro h
    cases h
    assumption
  · exact .unpaired

/-- A payload with its outer brackets written by their bytes is read as its criterion. -/
theorem readFilters_all_or_none_day :
    readFilters
      "[%7B\"columnId\":1,\"operator\":\"today\",\"column_name\":\"day\",\"columnType\":\"date\"%7D]" =
      .ok [⟨1, "today", .null, .null, some "day", some "date", by decide, by decide⟩] := by
  refine ((readFilters_all_or_none _).2.2.2 _).mpr (.inl ⟨[.object [("columnId", .int 1),
    ("operator", .text "today"), ("column_name", .text "day"), ("columnType", .text "date")]],
    ⟨"[\x7b\"columnId\":1,\"operator\":\"today\",\"column_name\":\"day\",\"columnType\":\"date\"\x7d]",
      ?_, ?_⟩, ?_⟩)
  · exact decode?_eq_some_iff_standsFor.mp (by cbv)
  · exact Json.read_eq_ok_iff.mp (by cbv)
  · exact .cons ⟨.inl rfl, rfl, rfl, .inr ⟨⟨rfl, rfl⟩, rfl⟩,
      ⟨"day", rfl, by decide, .inr ⟨rfl, rfl⟩⟩, ⟨"date", rfl, by decide, .inl rfl⟩⟩ .nil

/-- Brackets that are only opened stop a request with filters. -/
theorem readFilters_fails_brackets :
    readFilters (String.ofList (List.replicate 5000 '[')) = .error (.reading true) := by
  have hdeep : Json.read Json.maxDepth (String.ofList (List.replicate 5000 '[')) = .error (.tooDeep true) :=
    Json.read_replicate (by decide)
  have hstands : StandsFor (String.ofList (List.replicate 5000 '[')) _ := standsFor_self (by
    rw [String.toList_ofList, List.mem_replicate]
    exact fun h => absurd h.2 (by decide))
  exact readFilters_eq_error_iff.mpr (.reading ⟨_, hstands, hdeep⟩)

end GridQuery
