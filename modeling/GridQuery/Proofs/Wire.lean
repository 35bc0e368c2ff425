import GridQuery.Proofs.Filters
import GridQuery.Proofs.Json.Writing
import GridQuery.Proofs.Text.Escapes

/-!
# Filters go over the wire

A criterion is written as a payload that describes it, so the JSON text of some criteria is read as these
criteria, from each raw text that stands for it.  Percent encoding gives such a raw text.
-/

namespace GridQuery

namespace Value

mutual

theorem wire_of_isJson : (value : Value) → value.IsJson → value.wire = value
  | .null, _ | .bool _, _ | .int _, _ | .text _, _ => rfl
  | .real _, json => if_pos json
  | .date _, json | .time _, json => json.elim
  | .list items, json => congrArg Value.list (wireItems_of_itemsJson items json)
  | .object fields, json => congrArg Value.object (wireFields_of_fieldsJson fields json.2)

theorem wireItems_of_itemsJson : (items : List Value) → ItemsJson items → wireItems items = items
  | [], _ => rfl
  | item :: items, json => by
    rw [wireItems, wire_of_isJson item json.1, wireItems_of_itemsJson items json.2]

theorem wireFields_of_fieldsJson : (fields : List (String × Value)) → FieldsJson fields →
    wireFields fields = fields
  | [], _ => rfl
  | (name, value) :: fields, json => by
    rw [wireFields, wire_of_isJson value json.1, wireFields_of_fieldsJson fields json.2]

end

end Value

namespace Criterion
variable {criterion : Criterion} {criteria : List Criterion}

/-- A criterion with both echoes. -/
structure Echoed (criterion : Criterion) : Prop where
  columnName : ∃ name, criterion.columnName = some name ∧ name ≠ ""
  columnType : ∃ type, criterion.columnType = some type ∧ type ≠ ""

/-- A criterion as filters give it: with both echoes, and with values of JSON in which no whole number is
too long to be read. -/
structure IsPayload (criterion : Criterion) : Prop extends Echoed criterion where
  columnId : (Value.int criterion.columnId).Short
  value : criterion.value.IsJson
  valueShort : criterion.value.Short
  secondValue : criterion.secondValue.IsJson
  secondValueShort : criterion.secondValue.Short

/-- The fields of a criterion under their names, with its values as they are. -/
def payload (criterion : Criterion) : Value := .object [
  ("columnId", .int criterion.columnId),
  ("operator", .text criterion.operator),
  ("value", criterion.value),
  ("secondValue", criterion.secondValue),
  ("columnName", .ofText? criterion.columnName),
  ("columnType", .ofText? criterion.columnType)]

theorem describedBy_payload (echoed : criterion.Echoed) :
    criterion.DescribedBy criterion.payload := by
  obtain ⟨name, hname, hnamed⟩ := echoed.columnName
  obtain ⟨type, htype, htyped⟩ := echoed.columnType
  constructor
  · exact Or.inl rfl
  · rfl
  · rfl
  · exact Or.inl (Or.inl rfl)
  · exact ⟨name, hname, hnamed, Or.inl (by rw [payload, hname]; rfl)⟩
  · exact ⟨type, htype, htyped, Or.inl (by rw [payload, htype]; rfl)⟩

theorem wire_eq_payload (h : criterion.IsPayload) : criterion.wire = criterion.payload := by
  rw [wire, Value.wire_of_isJson _ h.value, Value.wire_of_isJson _ h.secondValue, payload]

theorem wire_isJson (h : criterion.IsPayload) : criterion.wire.IsJson := by
  obtain ⟨name, hname, _⟩ := h.columnName
  obtain ⟨type, htype, _⟩ := h.columnType
  have hnames : ["columnId", "operator", "value", "secondValue", "columnName", "columnType"].Nodup := by
    decide
  rw [wire_eq_payload h, payload, hname, htype]
  exact ⟨hnames, trivial, trivial, h.value, h.secondValue, trivial, trivial, trivial⟩

theorem wire_short (h : criterion.IsPayload) : criterion.wire.Short := by
  obtain ⟨name, hname, _⟩ := h.columnName
  obtain ⟨type, htype, _⟩ := h.columnType
  rw [wire_eq_payload h, payload, hname, htype]
  exact ⟨h.columnId, trivial, h.valueShort, h.secondValueShort, trivial, trivial, trivial⟩

def wires (criteria : List Criterion) : Value := .list (criteria.map Criterion.wire)

theorem wires_isJson (payloads : ∀ criterion ∈ criteria, criterion.IsPayload) :
    (wires criteria).IsJson := by
  induction criteria with
  | nil => trivial
  | cons criterion criteria ih =>
    obtain ⟨payload, payloads⟩ := List.forall_mem_cons.mp payloads
    exact ⟨wire_isJson payload, ih payloads⟩

theorem wires_short (payloads : ∀ criterion ∈ criteria, criterion.IsPayload) :
    (wires criteria).Short := by
  induction criteria with
  | nil => trivial
  | cons criterion criteria ih =>
    obtain ⟨payload, payloads⟩ := List.forall_mem_cons.mp payloads
    exact ⟨wire_short payload, ih payloads⟩

theorem forall₂_describedBy_wire (payloads : ∀ criterion ∈ criteria, criterion.IsPayload) :
    List.Forall₂ DescribedBy criteria (criteria.map wire) := by
  rw [List.forall₂_map_right_iff, List.forall₂_same]
  intro criterion hmem
  have hpayload := payloads criterion hmem
  rw [wire_eq_payload hpayload]
  exact describedBy_payload hpayload.toEchoed

end Criterion

def filtersText (criteria : List Criterion) : String :=
  String.ofList (Json.write false (Criterion.wires criteria))

theorem standsFor_encode {plain : Char → Bool} (hplain : plain '%' = false) (text : String) :
    StandsFor (String.ofList (Text.Percent.encode plain text.toList)) text := by
  rw [StandsFor, String.toList_ofList]
  exact Text.Percent.parts_encode hplain text.toList

section Reading
variable {criteria : List Criterion}

theorem lists_filtersText {raw : String} (payloads : ∀ criterion ∈ criteria, criterion.IsPayload)
    (hdepth : (Criterion.wires criteria).depth ≤ Json.maxDepth)
    (h : StandsFor raw (filtersText criteria)) : Lists raw (criteria.map Criterion.wire) :=
  ⟨filtersText criteria, h, Json.spells_write (Criterion.wires_isJson payloads).readable
    (Criterion.wires_short payloads) hdepth⟩

theorem readFilters_of_standsFor {raw : String}
    (payloads : ∀ criterion ∈ criteria, criterion.IsPayload)
    (hdepth : (Criterion.wires criteria).depth ≤ Json.maxDepth)
    (h : StandsFor raw (filtersText criteria)) : readFilters raw = .ok criteria := by
  apply readFilters_eq_ok_iff.mpr
  exact Or.inl ⟨_, lists_filtersText payloads hdepth h, Criterion.forall₂_describedBy_wire payloads⟩

/-- Filters come back as they were sent.  Criteria whose brackets do not nest too deep are read from the
percent encoding of their JSON text, whatever characters the encoding leaves as they are. -/
theorem readFilters_encode (payloads : ∀ criterion ∈ criteria, criterion.IsPayload)
    (hdepth : (Criterion.wires criteria).depth ≤ Json.maxDepth) {plain : Char → Bool}
    (hplain : plain '%' = false) :
    readFilters (String.ofList (Text.Percent.encode plain (filtersText criteria).toList)) =
      .ok criteria :=
  readFilters_of_standsFor payloads hdepth (standsFor_encode hplain _)

/-- A criterion that needs escapes in JSON as well as percent signs. -/
def noteCriterion : Criterion :=
  ⟨1, "not_contains", .text "50% \"é😀\"", .list [.null, .bool true, .int (-7)], some "note",
    some "text", Int.zero_lt_one, by decide⟩

theorem readFilters_encode_note :
    readFilters (String.ofList (Text.Percent.encode Char.isAlphanum
      (filtersText [noteCriterion]).toList)) = .ok [noteCriterion] := by
  have hpayload : noteCriterion.IsPayload := {
    columnId := show (Decimal.numeral 1).length ≤ 4300 by decide
    value := trivial
    valueShort := trivial
    secondValue := ⟨trivial, trivial, trivial, trivial⟩
    secondValueShort := ⟨trivial, trivial, show (Decimal.numeral 7).length ≤ 4300 by decide, trivial⟩
    columnName := ⟨"note", rfl, by decide⟩
    columnType := ⟨"text", rfl, by decide⟩ }
  have hplain : Char.isAlphanum '%' = false := rfl
  exact readFilters_encode (List.forall_mem_singleton.mpr hpayload) (by decide) hplain

end Reading

end GridQuery
