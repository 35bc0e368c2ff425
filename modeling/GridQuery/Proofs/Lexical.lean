import GridQuery.Proofs.Constraint
import GridQuery.Proofs.Store.Survivors
import GridQuery.Proofs.Store.Written
import Mathlib

/-!
# Operators on the characters of a text

A store only narrows down the rows for these operators, and the residual pass does the rest.  Together
they leave exactly the rows with a cell whose text is as the operator says: whoever passes the second
test has passed the first one, and both take the same criteria for empty.
-/

namespace GridQuery

namespace Text

theorem occursIn_iff_infix {needle text : List Char} :
    occursIn needle text = true ↔ needle <:+: text := by
  induction text with
  | nil => rw [occursIn, List.isEmpty_iff, List.infix_nil]
  | cons c rest ih =>
    rw [occursIn, Bool.or_eq_true, List.isPrefixOf_iff_prefix, ih, List.infix_cons_iff]

end Text

/-- What an operator says of a text that is looked for and the text of a cell.  Letters count alike in
both cases, except in patterns. -/
def Operator.Finds (operator : Operator) (needle text : String) : Prop :=
  match operator with
  | .contains => Text.lower needle.toList <:+: Text.lower text.toList
  | .notContains => ¬ Text.lower needle.toList <:+: Text.lower text.toList
  | .startsWith => Text.lower needle.toList <+: Text.lower text.toList
  | .endsWith => Text.lower needle.toList <:+ Text.lower text.toList
  | .regex => Residual.matchesPattern needle text
  | _ => False

namespace Residual

theorem isGiven_iff {value : Value} : isGiven value = true ↔ value ≠ .null ∧ value ≠ .text "" := by
  cases value <;> simp [isGiven]

theorem isNull_of_isGiven {value : Value} (h : isGiven value = true) : value.isNull = false := by
  cases value with
  | null => cases h
  | _ => rfl

theorem evaluate?_iff_finds {operator : Operator} (h : operator ∈ evaluable) {cell : Value}
    {needle text : String} (htext : cell.canonicalText? "" = some text) :
    (evaluate? evaluable operator cell (.text needle)).getD false = true ↔
      operator.Finds needle text := by
  have hcell : folded cell = Text.lower text.toList := by rw [folded, htext, Option.getD_some]
  have hneedle : folded (.text needle) = Text.lower needle.toList := rfl
  rw [evaluate?, if_pos h]
  cases operator with
  | contains =>
    simp only [evaluator?, Option.map_some, Option.getD_some, hcell, hneedle, Operator.Finds,
      Text.occursIn_iff_infix]
  | notContains =>
    simp only [evaluator?, Option.map_some, Option.getD_some, hcell, hneedle, Operator.Finds,
      Bool.not_eq_true', ← Bool.not_eq_true, Text.occursIn_iff_infix]
  | startsWith =>
    simp only [evaluator?, Option.map_some, Option.getD_some, hcell, hneedle, Operator.Finds,
      List.isPrefixOf_iff_prefix]
  | endsWith =>
    simp only [evaluator?, Option.map_some, Option.getD_some, hcell, hneedle, Operator.Finds,
      List.isSuffixOf_iff_suffix]
  | regex =>
    simp only [evaluator?, Option.map_some, Option.getD_some, htext, Operator.Finds]
    rfl
  | _ => simp [evaluator?, Operator.Finds]

end Residual

theorem Capabilities.evaluable_of_residual {capabilities : Capabilities} {operator : Operator}
    (h : operator ∈ capabilities.residualOperators) : operator ∈ Residual.evaluable :=
  capabilities.engine.supported operator h

namespace Store
variable {zone : Zone} {store : Store} {contents : Contents}

theorem Written.text_isSome_iff (written : store.Written zone contents) {cell : StoredCell}
    (hmem : cell ∈ store.cells.getD []) :
    cell.projections.text.isSome = true ↔ cell.value.isNull = false := by
  obtain ⟨value, _, hvalue, hprojections⟩ := written.kept cell hmem
  rw [hvalue, hprojections, Keeping.isNull_kept]
  constructor
  · intro h
    cases value with
    | null => cases h
    | _ => rfl
  · exact fun h => Value.canonicalText?_isSome h _

theorem Written.value_eq (written : store.Written zone contents) {cell other : StoredCell}
    (hcell : cell ∈ store.cells.getD []) (hother : other ∈ store.cells.getD [])
    (hrow : cell.rowId = other.rowId) (hcolumn : cell.columnId = other.columnId) :
    cell.value = other.value := by
  obtain ⟨value, hvalue, hkept, _⟩ := written.kept cell hcell
  obtain ⟨value', hvalue', hkept', _⟩ := written.kept other hother
  rw [hrow, hcolumn, hvalue'] at hvalue
  cases hvalue
  rw [hkept, hkept']

/-- What holds of the value of a row's cell holds of the value of a stored one in its place. -/
theorem Written.cell?_rowView_iff (written : store.Written zone contents) (row : StoredRow)
    (columnId : Int) (p : Value → Prop) :
    (∃ cell, (store.rowView (store.cells.getD []) row).cell? columnId = some cell ∧ p cell.value) ↔
      ∃ cell ∈ store.cells.getD [], cell.rowId = row.id ∧ cell.columnId = columnId ∧ p cell.value := by
  rw [Row.cell?_eq_find?]
  constructor
  · rintro ⟨view, hview, hp⟩
    have hcolumn : view.columnId = columnId := by simpa using List.find?_some hview
    obtain ⟨cell, hmem, rfl⟩ := List.mem_map.mp (List.mem_of_find?_eq_some hview)
    obtain ⟨hmem, hrow⟩ := List.mem_filter.mp hmem
    exact ⟨cell, hmem, eq_of_beq hrow, hcolumn, hp⟩
  · rintro ⟨cell, hmem, hrow, hcolumn, hp⟩
    have hown : store.cellView cell ∈ (store.rowView (store.cells.getD []) row).cells :=
      List.mem_map_of_mem (List.mem_filter.mpr ⟨hmem, beq_iff_eq.mpr hrow⟩)
    cases hview : (store.rowView (store.cells.getD []) row).cells.find? (·.columnId == columnId) with
    | none => exact absurd (beq_iff_eq.mpr hcolumn) (List.find?_eq_none.mp hview _ hown)
    | some view =>
      have hviewColumn : view.columnId = columnId := by simpa using List.find?_some hview
      obtain ⟨other, hother, rfl⟩ := List.mem_map.mp (List.mem_of_find?_eq_some hview)
      obtain ⟨hother, hotherRow⟩ := List.mem_filter.mp hother
      have hsame : cell.value = other.value := written.value_eq hmem hother
        (hrow.trans (eq_of_beq hotherRow).symm) (hcolumn.trans hviewColumn.symm)
      rw [hsame] at hp
      exact ⟨_, rfl, hp⟩

section Criteria
variable (store) (setting : Setting)

/-- A row has a cell in a column with a value, neither null nor the empty text, whose text is as an
operator says. -/
def HasFound (row : StoredRow) (columnId : Int) (operator : Operator) (needle : String) : Prop :=
  ∃ cell ∈ store.cells.getD [], cell.rowId = row.id ∧ cell.columnId = columnId ∧
    cell.value ≠ .null ∧ cell.value ≠ .text "" ∧
    ∃ text, cell.value.canonicalText? "" = some text ∧ operator.Finds needle text

/-- A row satisfies a resolved criterion: the condition of the criterion or, where the store does not
decide, what its operator says of a cell unless the text that is looked for is empty. -/
def Satisfies (row : StoredRow) (resolved : Resolved) : Prop :=
  if resolved.operator ∈ setting.capabilities.residualOperators then
    ∃ needle, resolved.value = .text needle ∧
      (needle ≠ "" → store.HasFound row resolved.column.id resolved.operator needle)
  else ∀ condition, Constraints.standard.condition? setting resolved = .ok (some condition) →
    condition.holds (store.cellsAt row.id)

variable {store setting} {schema : Schema} {criterion : Criterion} {resolved : Resolved} {row : StoredRow}

theorem Written.passes_iff (written : store.Written zone contents)
    (hoperator : resolved.operator ∈ setting.capabilities.residualOperators) {needle : String}
    (hvalue : resolved.value = .text needle) :
    setting.capabilities.engine.passes (store.rowView (store.cells.getD []) row) resolved = true ↔
      store.HasFound row resolved.column.id resolved.operator needle := by
  have hevaluable := Capabilities.evaluable_of_residual hoperator
  refine Iff.trans ?_ (written.cell?_rowView_iff row resolved.column.id fun value =>
    value ≠ .null ∧ value ≠ .text "" ∧
      ∃ text, value.canonicalText? "" = some text ∧ resolved.operator.Finds needle text)
  unfold ResidualEngine.passes
  cases (store.rowView (store.cells.getD []) row).cell? resolved.column.id with
  | none => simp
  | some cell =>
    simp only [Bool.and_eq_true, hvalue, Option.some.injEq, exists_eq_left']
    constructor
    · rintro ⟨hgiven, hfinds⟩
      obtain ⟨text, htext⟩ := Option.isSome_iff_exists.mp
        (Value.canonicalText?_isSome (Residual.isNull_of_isGiven hgiven) "")
      obtain ⟨hnull, hempty⟩ := Residual.isGiven_iff.mp hgiven
      exact ⟨hnull, hempty, text, htext, (Residual.evaluate?_iff_finds hevaluable htext).mp hfinds⟩
    · rintro ⟨hnull, hempty, text, htext, hfinds⟩
      exact ⟨Residual.isGiven_iff.mpr ⟨hnull, hempty⟩,
        (Residual.evaluate?_iff_finds hevaluable htext).mpr hfinds⟩

theorem Written.hasText_of_passes (written : store.Written zone contents)
    (hoperator : resolved.operator ∈ setting.capabilities.residualOperators) {needle : String}
    (hvalue : resolved.value = .text needle)
    (h : setting.capabilities.engine.passes (store.rowView (store.cells.getD []) row) resolved = true) :
    (Condition.someCell resolved.column.id .hasText).holds (store.cellsAt row.id) = true := by
  obtain ⟨cell, hmem, hrow, hcolumn, hnull, _⟩ := (written.passes_iff hoperator hvalue).mp h
  have hgiven : cell.value.isNull = false := by
    cases hcell : cell.value with
    | null => exact absurd hcell hnull
    | _ => rfl
  refine List.any_eq_true.mpr ⟨(cell.columnId, cell.projections), ?_, ?_⟩
  · exact List.mem_map_of_mem (List.mem_filter.mpr ⟨hmem, beq_iff_eq.mpr hrow⟩)
  · rw [Bool.and_eq_true]
    exact ⟨beq_iff_eq.mpr hcolumn, (written.text_isSome_iff hmem).mpr hgiven⟩

theorem Written.passes_both_iff (written : store.Written setting.zone contents)
    (h : criterion.resolve setting.zone schema = .ok (.resolved resolved))
    (compiles : Constraints.standard.Compiles setting resolved) :
    (Constraints.standard.compiled? setting resolved).all (Condition.holds (store.cellsAt row.id)) =
          true ∧
        (!setting.capabilities.engine.concerns resolved || setting.capabilities.engine.passes
          (store.rowView (store.cells.getD []) row) resolved) = true ↔
      store.Satisfies setting row resolved := by
  unfold Satisfies
  have hcompiled := Constraints.condition?_eq_ok compiles
  by_cases hoperator : resolved.operator ∈ setting.capabilities.residualOperators
  · obtain ⟨needle, hvalue⟩ := criterion.value_eq_text h hoperator
    have hconcerns := ResidualEngine.concerns_iff_condition? h hoperator
    have hcondition := Resolved.condition?_of_residual (criterion.family_eq_text h hoperator)
      hoperator hvalue
    rw [hcompiled, Except.ok.injEq] at hcondition
    rw [hcompiled] at hconcerns
    rw [if_pos hoperator, hvalue]
    by_cases hempty : needle = ""
    · rw [if_pos hempty] at hcondition
      rw [hcondition] at hconcerns ⊢
      have hconcerned : setting.capabilities.engine.concerns resolved = false := by
        rw [Bool.eq_false_iff]
        exact fun hconcerned => hconcerns.mp hconcerned rfl
      rw [hconcerned]
      exact iff_of_true ⟨rfl, rfl⟩ ⟨needle, rfl, fun hne => absurd hempty hne⟩
    · rw [if_neg hempty] at hcondition
      rw [hcondition] at hconcerns ⊢
      have hconcerned : setting.capabilities.engine.concerns resolved = true :=
        hconcerns.mpr (by simp)
      rw [hconcerned]
      constructor
      · rintro ⟨_, hpass⟩
        exact ⟨needle, rfl, fun _ => (written.passes_iff hoperator hvalue).mp hpass⟩
      · rintro ⟨_, heq, hfinds⟩
        cases heq
        have hpass := (written.passes_iff hoperator hvalue).mpr (hfinds hempty)
        exact ⟨written.hasText_of_passes hoperator hvalue hpass, hpass⟩
  · have hconcerned : setting.capabilities.engine.concerns resolved = false := by
      simp [ResidualEngine.concerns, Capabilities.engine, hoperator]
    rw [if_neg hoperator, hcompiled, hconcerned]
    cases Constraints.standard.compiled? setting resolved <;> simp

theorem Written.admits_iff (written : store.Written setting.zone contents)
    (builds : criterion.Builds .standard setting schema) :
    store.admits setting schema row criterion = true ↔
      ∀ resolved, criterion.resolve setting.zone schema = .ok (.resolved resolved) →
        store.Satisfies setting row resolved := by
  rw [admits, Bool.and_eq_true, Criterion.condition?, ResidualEngine.keeps]
  cases hresolved : criterion.resolved? setting.zone schema with
  | none =>
    refine iff_of_true ⟨rfl, rfl⟩ ?_
    intro resolved h
    rw [Criterion.resolved?_eq_some_iff.mpr h] at hresolved
    cases hresolved
  | some resolved =>
    have h := Criterion.resolved?_eq_some_iff.mp hresolved
    refine (written.passes_both_iff h (builds.2 resolved hresolved)).trans ?_
    simp [h]

theorem mem_listing_searched_iff {tableId : Int} {search : String} {order : RowOrder} :
    row ∈ store.listing (searched setting schema tableId search) order ↔
      row ∈ store.rows.getD [] ∧ row.tableId = tableId ∧
        ∀ condition, Condition.search? search = some condition →
          condition.holds (store.cellsAt row.id) := by
  rw [listing_perm.mem_iff, matching, List.mem_filter, searched, Predicate.holds_built]
  simp [Option.all_eq_true]

theorem mem_survivors_iff {tableId : Int} {search : String} {order : RowOrder}
    {criteria : List Criterion} {rows : List Row} (written : store.Written setting.zone contents)
    (h : store.survivors setting schema tableId search order criteria = .ok rows) (view : Row) :
    view ∈ rows ↔ ∃ row ∈ store.rows.getD [],
      view = store.rowView (store.cells.getD []) row ∧ row.tableId = tableId ∧
        (∀ condition, Condition.search? search = some condition →
          condition.holds (store.cellsAt row.id)) ∧
        ∀ criterion ∈ criteria, ∀ resolved,
          criterion.resolve setting.zone schema = .ok (.resolved resolved) →
            store.Satisfies setting row resolved := by
  obtain ⟨runs, rfl⟩ := survivors_eq_ok_iff.mp h
  have hadmits (row : StoredRow) : criteria.all (store.admits setting schema row) = true ↔
      ∀ criterion ∈ criteria, ∀ resolved,
        criterion.resolve setting.zone schema = .ok (.resolved resolved) →
          store.Satisfies setting row resolved := by
    rw [List.all_eq_true]
    exact forall₂_congr fun criterion hmem => written.admits_iff (runs.builds criterion hmem)
  rw [List.mem_map]
  constructor
  · rintro ⟨row, hrow, rfl⟩
    obtain ⟨hlisted, hall⟩ := List.mem_filter.mp hrow
    obtain ⟨hmem, htable, hsearch⟩ := mem_listing_searched_iff.mp hlisted
    exact ⟨row, hmem, rfl, htable, hsearch, (hadmits row).mp hall⟩
  · rintro ⟨row, hmem, rfl, htable, hsearch, hall⟩
    have hlisted : row ∈ store.listing (searched setting schema tableId search) order :=
      mem_listing_searched_iff.mpr ⟨hmem, htable, hsearch⟩
    exact ⟨row, List.mem_filter.mpr ⟨hlisted, (hadmits row).mpr hall⟩, rfl⟩

/-- Once a predicate is built and its rows are fetched, the residual pass comes to an end, and leaves the
rows of the table that satisfy the search and every criterion.  It selects the criteria of the
predicate; it ignores the same ones as the store; and the store excludes no row that passes. -/
theorem survivors_exact {tableId : Int} {search : String} {order : RowOrder}
    {criteria : List Criterion} {predicate : Predicate} {fetched : List Row}
    (written : store.Written setting.zone contents)
    (hbuilt : Predicate.ofCriteria .standard setting schema tableId criteria search = .ok predicate)
    (hfetch : store.fetch predicate order 0 none true = .ok fetched) :
    (∃ rows, setting.capabilities.engine.keep setting.zone schema criteria fetched = .ok rows ∧
      ∀ view, view ∈ rows ↔ ∃ row ∈ store.rows.getD [],
        view = store.rowView (store.cells.getD []) row ∧ row.tableId = tableId ∧
        (∀ condition, Condition.search? search = some condition →
          condition.holds (store.cellsAt row.id)) ∧
        ∀ criterion ∈ criteria, ∀ resolved,
          criterion.resolve setting.zone schema = .ok (.resolved resolved) →
            store.Satisfies setting row resolved) ∧
    setting.capabilities.engine.select setting.zone schema criteria =
      .ok (setting.capabilities.engine.criteria predicate.criteria) ∧
    ∀ (criterion : Criterion) (resolved : Resolved),
      criterion.resolve setting.zone schema = .ok (.resolved resolved) →
      resolved.operator ∈ setting.capabilities.residualOperators →
        (setting.capabilities.engine.concerns resolved ↔
          Constraints.standard.condition? setting resolved ≠ .ok none) ∧
        ∀ row, setting.capabilities.engine.passes (store.rowView (store.cells.getD []) row) resolved →
          ∀ condition, Constraints.standard.condition? setting resolved = .ok (some condition) →
            condition.holds (store.cellsAt row.id) := by
  obtain ⟨builds, rfl⟩ := Predicate.ofCriteria_eq_ok_iff.mp hbuilt
  have hresolve := (Predicate.builds_iff.mp builds).1
  refine ⟨?_, ResidualEngine.select_eq_ok hresolve, ?_⟩
  · obtain ⟨rows, hkeep⟩ : ∃ rows, setting.capabilities.engine.keep setting.zone schema criteria
        fetched = .ok rows := ⟨_, ResidualEngine.keep_eq_ok_iff.mpr ⟨hresolve, rfl⟩⟩
    have hsurvivors : store.survivors setting schema tableId search order criteria = .ok rows := by
      simp only [survivors, Steps.bind_eq_ok_iff, Steps.mapError_eq_ok_iff]
      exact ⟨_, hbuilt, fetched, hfetch, hkeep⟩
    exact ⟨rows, hkeep, mem_survivors_iff written hsurvivors⟩
  · intro criterion resolved hresolve hoperator
    refine ⟨ResidualEngine.concerns_iff_condition? hresolve hoperator, ?_⟩
    intro row hpasses condition hcondition
    obtain ⟨needle, hvalue⟩ := criterion.value_eq_text hresolve hoperator
    rw [Resolved.condition?_of_residual (criterion.family_eq_text hresolve hoperator) hoperator
      hvalue] at hcondition
    split at hcondition
    · cases hcondition
    · cases hcondition
      exact written.hasText_of_passes hoperator hvalue hpasses

def notes : Store :=
  (((empty.addTable 7).addColumn 7 ⟨1, "note", "text", 0, none⟩).insertRow .utc
    ⟨1, 7, ⟨0, Reading.zero_lt⟩⟩ [(1, .text "Ab")]).insertRow .utc
      ⟨2, 7, ⟨0, Reading.zero_lt⟩⟩ [(1, .text "")]

def notesWithA : Predicate where
  tableId := 7
  conditions := [.someCell 1 .hasText]
  criteria := [⟨⟨1, "starts_with", .text "a", .null, none, none, Int.zero_lt_one, by decide⟩,
    ⟨1, "note", "text", 0, none⟩, .startsWith, .text "a", .null⟩]
  dropped := []

theorem survivors_exact_notes :
    let setting : Setting := ⟨.utc, ⟨⟨0, by decide⟩, none⟩, ⟨true⟩⟩
    let schema : Schema := ⟨[⟨1, "note", "text", 0, none⟩]⟩
    let starts : Criterion := ⟨1, "starts_with", .text "a", .null, none, none, by decide, by decide⟩
    ∃ rows, setting.capabilities.engine.keep .utc schema [starts]
        [notes.rowView (notes.cells.getD []) ⟨1, 7, ⟨0, by decide⟩⟩,
          notes.rowView (notes.cells.getD []) ⟨2, 7, ⟨0, by decide⟩⟩] = .ok rows ∧
      ∀ view, view ∈ rows ↔ ∃ row ∈ notes.rows.getD [],
        view = notes.rowView (notes.cells.getD []) row ∧ row.tableId = 7 ∧
        (∀ condition, Condition.search? "" = some condition →
          condition.holds (notes.cellsAt row.id)) ∧
        ∀ criterion ∈ [starts], ∀ resolved,
          criterion.resolve .utc schema = .ok (.resolved resolved) →
            notes.Satisfies setting row resolved := by
  have hbuilt : Predicate.ofCriteria .standard ⟨.utc, ⟨⟨0, by decide⟩, none⟩, ⟨true⟩⟩
      ⟨[⟨1, "note", "text", 0, none⟩]⟩ 7
      [⟨1, "starts_with", .text "a", .null, none, none, by decide, by decide⟩] "" =
        .ok notesWithA := by cbv
  have hfetch : notes.fetch notesWithA ⟨.id, false⟩ 0 none true =
      .ok [notes.rowView (notes.cells.getD []) ⟨1, 7, ⟨0, by decide⟩⟩,
        notes.rowView (notes.cells.getD []) ⟨2, 7, ⟨0, by decide⟩⟩] := by cbv
  have grown : Grown .utc notes
      ((Contents.writeRow (fun _ _ => none) 1 [(1, .text "Ab")]).writeRow 2 [(1, .text "")]) :=
    .insertRow _ _ (.insertRow _ _ (.addColumn 7 _ (.addTable 7 .empty) (by simp [addTable, empty, emptyOf])
      (by simp [addTable, empty, emptyOf])))
  exact (survivors_exact grown.written hbuilt hfetch).1

end Criteria

end Store

end GridQuery
