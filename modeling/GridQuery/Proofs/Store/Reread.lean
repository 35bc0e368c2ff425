import GridQuery.Proofs.Store.Held
import GridQuery.Proofs.Store.StructuredEquality
import GridQuery.Proofs.Store.TextOperators

/-!
# Texts of values that are read back

A cell keeps the canonical text of the value it was written with, and the value itself in a column from
which it is read back.  If the column keeps JSON texts, the value that is read back has the text that is
kept beside it; if it keeps numbers, that depends on what it makes of them.  The residual pass then says of
the value what it would say of the text.
-/

namespace GridQuery

namespace Residual
variable {registered : List Operator} {operator : Operator} {cell other filter : Value}

theorem evaluate?_congr (h : cell.canonicalText? "" = other.canonicalText? "") :
    evaluate? registered operator cell filter = evaluate? registered operator other filter := by
  have hfolded : folded cell = folded other := by rw [folded, folded, h]
  unfold evaluate?
  cases operator <;> simp only [evaluator?, Option.map_some, Option.map_none, hfolded, h]

end Residual

def ResidualEngine.admitsText (engine : ResidualEngine) (criterion : Resolved) (text : String) : Bool :=
  text != "" &&
    (Residual.evaluate? engine.registered criterion.operator (.text text) criterion.value).getD false

theorem ResidualEngine.passes_eq_any {engine : ResidualEngine} {criterion : Resolved} {row : Row} {cell : Cell}
    {text : Option String} (hcell : row.cell? criterion.column.id = some cell)
    (htext : cell.value.canonicalText? "" = text) (hgiven : Residual.isGiven cell.value = text.any (· != "")) :
    engine.passes row criterion = text.any (engine.admitsText criterion) := by
  simp only [passes, hcell, hgiven]
  cases text with
  | none => rfl
  | some text =>
    have hsame : cell.value.canonicalText? "" = (Value.text text).canonicalText? "" := htext
    rw [Residual.evaluate?_congr hsame]
    rfl

namespace Value
variable {value : Value} {type : String}

theorem canonicalText?_eq_none_iff : value.canonicalText? type = none ↔ value = .null := by
  constructor
  · intro hnone
    cases hnull : value.isNull with
    | true => exact eq_null_of_isNull hnull
    | false =>
      have hsome := canonicalText?_isSome hnull type
      rw [hnone] at hsome
      cases hsome
  · rintro rfl
    rfl

theorem isGiven_kept (keeping : Keeping) (htype : type ≠ "reference") (readable : value.IsReadable) :
    Residual.isGiven (keeping.kept value) = (value.canonicalText? type).any (· != "") := by
  have hgiven : Residual.isGiven (keeping.kept value) = true ↔ value ≠ .null ∧ value ≠ .text "" := by
    rw [Residual.isGiven_iff, Ne, Ne, Keeping.kept_eq_null_iff, Keeping.kept_eq_text_iff]
  by_cases htext : ∃ s, value = .text s
  · obtain ⟨s, rfl⟩ := htext
    rw [Bool.eq_iff_iff, hgiven]
    simp [canonicalText?, scalarText?]
  · by_cases hnull : value = .null
    · rw [Bool.eq_iff_iff, hgiven, hnull]
      simp [canonicalText?, scalarText?]
    · have hisNull : value.isNull = false := Bool.eq_false_iff.mpr (mt eq_null_of_isNull hnull)
      obtain ⟨text, hshown, hne⟩ := exists_canonicalText? htype readable hisNull fun s h => htext ⟨s, h⟩
      rw [hgiven.mpr ⟨hnull, fun h => htext ⟨"", h⟩⟩, hshown, Option.any_some]
      exact (bne_iff_ne.mpr hne).symm

end Value

namespace Store
variable {zone : Zone} {store : Store} {contents : Contents} {predicate : Predicate} {order : RowOrder}
  {offset : Int} {limit : Option Int}

/-- Every cell of a fetched row comes with what is kept of the value it was written with. -/
theorem Written.exists_stored (written : store.Written zone contents) {rows : List Row}
    (hfetch : store.fetch predicate order offset limit true = .ok rows) {row : Row} (hrow : row ∈ rows)
    {columnId : Int} {value : Value} (hvalue : contents row.id columnId = some value) :
    ∃ stored ∈ store.cells.getD [], stored.rowId = row.id ∧ stored.columnId = columnId ∧
      stored.projections.text = value.canonicalText? (store.columnType columnId) ∧
      ∃ cell, row.cell? columnId = some cell ∧ cell.value = store.keeping.kept value := by
  obtain ⟨-, -, rfl⟩ := fetch_eq_ok_iff.mp hfetch
  obtain ⟨origin, -, rfl⟩ := List.mem_map.mp hrow
  obtain ⟨stored, hmem, hid, hcolumn⟩ := written.present _ _ _ hvalue
  obtain ⟨found, hfound, hkept, hprojections⟩ := written.kept stored hmem
  rw [hid, hcolumn, hvalue] at hfound
  obtain rfl := Option.some.inj hfound
  refine ⟨stored, hmem, hid, hcolumn, ?_, ?_⟩
  · rw [hprojections, hcolumn]
    rfl
  · exact (written.cell?_rowView_iff origin columnId (· = store.keeping.kept value)).mpr
      ⟨stored, hmem, hid, hcolumn, hkept⟩

/-- Whatever value of JSON is written into a column of any type but `reference`, the text kept beside it is
that of the value which its JSON text stands for.  What a fetched row shows is read from what the column
holds, and is null if and only if no text is kept.  It has the text that is kept if the column keeps JSON
texts, and otherwise just if the column makes the same number of it again; the row then passes every residual
criterion on the column as that text does. -/
theorem reread_text (written : store.Written zone contents) {rows : List Row}
    (hfetch : store.fetch predicate order offset limit true = .ok rows) {row : Row} (hrow : row ∈ rows)
    {columnId : Int} {value : Value} (hvalue : contents row.id columnId = some value)
    (htype : store.columnType columnId ≠ "reference") (legible : value.Legible Json.maxDepth) :
    ∃ stored ∈ store.cells.getD [], stored.rowId = row.id ∧ stored.columnId = columnId ∧
      stored.projections.text = value.canonicalText? (store.columnType columnId) ∧
      (∃ back, Json.read Json.maxDepth (String.ofList (Json.write false value)) = .ok back ∧
        back.canonicalText? "" = stored.projections.text ∧
        (back = .null ↔ stored.projections.text = none)) ∧
      ∃ cell, row.cell? columnId = some cell ∧ (Held.ofValue store.keeping value).read = .ok cell.value ∧
        (cell.value = .null ↔ stored.projections.text = none) ∧
        (store.keeping = .texts → cell.value.canonicalText? "" = stored.projections.text) ∧
        (cell.value.canonicalText? "" = stored.projections.text ↔ store.keeping.Restores value) ∧
        (cell.value.canonicalText? "" = stored.projections.text →
          ∀ (engine : ResidualEngine) (criterion : Resolved), criterion.column.id = columnId →
            engine.passes row criterion = stored.projections.text.any (engine.admitsText criterion)) := by
  obtain ⟨stored, hmem, hid, hcolumn, htext, cell, hcell, hkept⟩ :=
    written.exists_stored hfetch hrow hvalue
  refine ⟨stored, hmem, hid, hcolumn, htext, ?_, cell, hcell, ?_⟩
  · refine ⟨value, Json.read_write_of_legible legible, ?_, ?_⟩
    · exact (Value.canonicalText?_eq_of_ne (by decide) htype).trans htext.symm
    · rw [htext, Value.canonicalText?_eq_none_iff]
  · rw [htext, hkept]
    have hsame := @Keeping.canonicalText?_kept_iff store.keeping value _ htype
    refine ⟨Held.read_ofValue store.keeping legible, ?_, ?_, hsame, ?_⟩
    · rw [Keeping.kept_eq_null_iff, Value.canonicalText?_eq_none_iff]
    · intro htexts
      exact hsame.mpr (htexts ▸ Keeping.restores_texts value)
    · intro hsame engine criterion hon
      have hgiven := Value.isGiven_kept store.keeping htype legible.readable
      rw [← hkept] at hsame hgiven
      rw [← hon] at hcell
      exact ResidualEngine.passes_eq_any hcell hsame hgiven

theorem reread_text_receipts :
    let ledger := receiptsOf .texts
    let row := ledger.rowView (ledger.cells.getD []) ⟨1, 7, ⟨0, Reading.zero_lt⟩⟩
    ledger.fetch ⟨7, [], [], []⟩ ⟨.id, false⟩ 0 none true = .ok [row] ∧
      ∃ cell, row.cell? 1 = some cell ∧ cell.value.canonicalText? "" = some "18446744073709551617" := by
  intro ledger row
  have hvalue : Contents.writeRow (fun _ _ => none) 1 [(1, .int 18446744073709551617)] 1 1 =
      some (.int 18446744073709551617) := by cbv
  have hshort : (Decimal.numeral 18446744073709551617).length ≤ 4300 := by decide
  have hlisting : ledger.listing ⟨7, [], [], []⟩ ⟨.id, false⟩ = [⟨1, 7, ⟨0, Reading.zero_lt⟩⟩] :=
    List.mergeSort_singleton _
  have accepts : ledger.Accepts ⟨7, [], [], []⟩ [0] :=
    ⟨List.forall_mem_nil _, rfl, fun _ => rfl, by decide⟩
  have hfetch : ledger.fetch ⟨7, [], [], []⟩ ⟨.id, false⟩ 0 none true = .ok [row] := by
    rw [fetch_eq_ok_iff, hlisting]
    exact ⟨accepts, fun _ _ => rfl, rfl⟩
  have htype : ledger.columnType 1 ≠ "reference" := by decide
  obtain ⟨stored, -, -, -, htext, -, cell, hcell, -, -, hsame, -⟩ :=
    reread_text (grown_receiptsOf .texts).written hfetch List.mem_cons_self hvalue htype
      ⟨trivial, hshort, by decide⟩
  refine ⟨hfetch, cell, hcell, (hsame rfl).trans (htext.trans ?_)⟩
  decide +kernel

end Store

end GridQuery
