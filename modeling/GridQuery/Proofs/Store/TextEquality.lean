import GridQuery.Proofs.Constraint
import GridQuery.Proofs.Store.Written
import GridQuery.Proofs.Text.Trimming
import GridQuery.Proofs.Truth
import Mathlib

/-!
# Equality of texts

Where columns are compared as text, a criterion is trimmed of all blanks, and a stored text by the store:
of blanks U+0020 in columns of text, of nothing in columns of unknown types.  A row is found if the trimmed
texts agree and the store leaves no other blank at the ends of its own.
-/

namespace GridQuery

def Family.comparedText (family : Family) (text : String) : List Char :=
  match family with
  | .text => Text.trimBy (· = ' ') text.toList
  | _ => text.toList

namespace Family
variable {family : Family} {text needle : String}

theorem trim_comparedText : Text.trim (family.comparedText text) = Text.trim text.toList := by
  cases family with
  | text =>
    refine Text.trimBy_trimBy ?_ text.toList
    intro c hc
    obtain rfl := of_decide_eq_true hc
    decide
  | _ => rfl

theorem comparedText_eq_iff :
    family.comparedText text = (trimmed needle).toList ↔
      trimmed text = trimmed needle ∧ Text.Bare Text.isBlank (family.comparedText text) := by
  have htrim : (trimmed text).toList = Text.trim (family.comparedText text) := by
    rw [toList_trimmed, trim_comparedText]
  rw [← Text.trimBy_eq_self_iff, ← String.toList_inj, htrim, Text.trim]
  constructor
  · intro h
    have hbare : Text.Bare Text.isBlank (family.comparedText text) := by
      rw [h, toList_trimmed]
      exact Text.bare_trimBy Text.isBlank needle.toList
    have hself := Text.trimBy_eq_self_iff.mpr hbare
    exact ⟨hself.trans h, hself⟩
  · rintro ⟨htext, hself⟩
    rw [← htext, hself]

end Family

namespace Criterion
variable {zone : Zone} {schema : Schema} {criterion : Criterion} {column : Column}
  {operator : Operator} {value : Value}

/-- A criterion with a value that its column can use resolves, where any value fits. -/
theorem resolve_of_coerce (hcolumn : schema.column? criterion.columnId = some column)
    (hname : criterion.operator = operator.name) (hknown : operator ∈ column.family.operators)
    (hfields : operator.fields = [.value])
    (hfamily : column.family ≠ .numeric ∧ column.family ≠ .date)
    (hnull : criterion.value.isNull = false)
    (hcoerce : coerce zone column.type criterion.value = .ok (.usable value)) :
    criterion.resolve zone schema =
      .ok (.resolved ⟨criterion, column, operator, value, .null⟩) := by
  have hoperator : operatorFor? criterion column = some operator := by
    rw [operatorFor?_eq_some_iff, hname]
    exact ⟨operator.ofName?_name, hknown⟩
  have hfits : unfitValue? zone column .value criterion.value = none := by
    unfold unfitValue?
    rw [hnull, if_neg Bool.false_ne_true]
    split
    · rename_i h
      exact absurd h hfamily.1
    · rename_i h
      exact absurd h hfamily.2
    · rfl
  have hunfit : criterion.unfit zone schema = [] := by
    unfold unfit
    simp only [hcolumn, hoperator, hfields, List.filterMap_cons, List.filterMap_nil, ValueField.of,
      hfits]
  have hvalues : coerceFields zone column.type criterion [.value] = .ok (.ok [value]) := by
    simp only [coerceFields, ValueField.of, hcoerce, bind, Except.bind, pure, Except.pure, Except.map]
  unfold resolve
  rw [hunfit, hcolumn]
  simp only [hoperator, hfields, hvalues]
  rfl

end Criterion

namespace Store
variable {zone : Zone} {store : Store} {contents : Contents} {rowId : Int} {column : Column}
  {test : CellTest} {value : Value}

theorem Written.someCell_truth_iff (written : store.Written zone contents)
    (htype : store.columnType column.id = column.type)
    (hcell : contents rowId column.id = some value) :
    (Condition.someCell column.id test).truth (store.cellsAt rowId) = some true ↔
      test.holds (.of zone column.type value) = true := by
  rw [Condition.truth_eq_some_holds, Option.some.injEq, Condition.holds,
    written.any_cellsAt rowId column.id fun cell => test.holds cell, htype, hcell, Option.any_some]

theorem Written.noCell_truth_iff (written : store.Written zone contents)
    (htype : store.columnType column.id = column.type)
    (hcell : contents rowId column.id = some value) :
    (Condition.noCell column.id test).truth (store.cellsAt rowId) = some true ↔
      ¬ test.holds (.of zone column.type value) = true := by
  rw [← written.someCell_truth_iff htype hcell, Condition.truth_eq_some_holds,
    Condition.truth_eq_some_holds, Option.some.injEq, Option.some.injEq, Bool.not_eq_true]
  exact iff_of_eq (Bool.not_eq_true' _)

end Store

namespace Resolved
variable {setting : Setting} {resolved : Resolved} {needle : String} {value : Value} {text : String}
  {zone : Zone}

theorem standard_condition?_equals (h : resolved.operator = .equals) :
    Constraints.standard.condition? setting resolved =
      .ok (resolved.someCell? resolved.equalTest?) := by
  have hfamily : resolved.family ∈ resolved.operator.constrained := by
    rw [h]
    cases resolved.family <;> decide
  rw [Constraints.standard_condition?_eq hfamily, condition?, h]

theorem standard_condition?_notEquals (h : resolved.operator = .notEquals) :
    Constraints.standard.condition? setting resolved =
      .ok (resolved.noCell? resolved.equalTest?) := by
  have hfamily : resolved.family ∈ resolved.operator.constrained := by
    rw [h]
    cases resolved.family <;> decide
  rw [Constraints.standard_condition?_eq hfamily, condition?, h]

/-- Columns that are compared as text compare what the store makes of a text with the criterion's. -/
theorem equalTest?_of_text (hplain : resolved.family = .text ∨ resolved.family = .other)
    (hvalue : resolved.value = .text needle) (hne : needle ≠ "")
    (htext : value.canonicalText? resolved.column.type = some text) :
    ∃ test, resolved.equalTest? = some test ∧
      (test.holds (.of zone resolved.column.type value) = true ↔
        resolved.family.comparedText text = needle.toList) := by
  rcases hplain with hfamily | hfamily
  · refine ⟨.trimmedTextIs needle, ?_, ?_⟩
    · simp [equalTest?, hfamily, hvalue, hne]
    · simp [CellTest.holds, Projections.of, htext, hfamily, Family.comparedText]
  · refine ⟨.textIs needle, ?_, ?_⟩
    · simp [equalTest?, hfamily, hvalue, Value.canonicalText?, Value.scalarText?, hne]
    · simp [CellTest.holds, Projections.of, htext, hfamily, Family.comparedText, String.toList_inj]

end Resolved

section Equality
variable {setting : Setting} {store : Store} {tableId rowId : Int} {schema : Schema}
  {contents : Contents} {criterion : Criterion} {column : Column} {value : Value} {needle : String}

theorem Value.canonicalText?_of_plain
    (hplain : Family.ofType column.type = .text ∨ Family.ofType column.type = .other) :
    value.canonicalText? column.type = value.canonicalText? "" := by
  have hreference : column.type ≠ "reference" := by
    intro h
    rw [h] at hplain
    rcases hplain with h | h <;> cases h
  exact canonicalText?_eq_of_ne hreference (by decide)

/-- A row is found by an equality of texts if and only if the trimmed texts of its value and of the
criterion's agree and what the store compares has no blank at its ends. -/
theorem Store.text_equality_iff
    (keyed : ((store.columns.getD []).map (·.2.id)).Nodup)
    (hschema : store.schema tableId = .ok schema) (written : store.Written setting.zone contents)
    (hcolumn : schema.column? criterion.columnId = some column)
    (hplain : column.family = .text ∨ column.family = .other)
    (unstructured : isStructured column.type = false)
    (hname : criterion.operator = Operator.name .equals)
    (hcoerce : coerce setting.zone column.type criterion.value = .ok (.usable (.text needle)))
    (hne : needle ≠ "") (hcell : contents rowId column.id = some value)
    (hnull : value.isNull = false) :
    ∃ resolved condition, criterion.resolve setting.zone schema = .ok (.resolved resolved) ∧
      Constraints.standard.condition? setting resolved = .ok (some condition) ∧
      ∃ stored asked, value.canonicalText? column.type = some stored ∧
        criterion.value.canonicalText? column.type = some asked ∧ needle = trimmed asked ∧
        (condition.truth (store.cellsAt rowId) = some true ↔
          trimmed stored = trimmed asked ∧
            Text.Bare Text.isBlank (column.family.comparedText stored)) := by
  have hgiven : criterion.value.isNull = false := by
    cases hvalue : criterion.value with
    | null =>
      rw [hvalue] at hcoerce
      cases hcoerce
    | _ => rfl
  obtain ⟨asked, hasked, hneedle⟩ := eq_text_of_coerce hplain unstructured hgiven hcoerce
  rw [← Value.canonicalText?_of_plain hplain] at hasked
  have hneedle : needle = trimmed asked := Value.text.inj hneedle
  obtain ⟨stored, hstored⟩ :=
    Option.isSome_iff_exists.mp (Value.canonicalText?_isSome hnull column.type)
  have hother : column.family ≠ .numeric ∧ column.family ≠ .date := by
    rcases hplain with h | h
    · rw [h]
      exact ⟨nofun, nofun⟩
    · rw [h]
      exact ⟨nofun, nofun⟩
  have hknown : Operator.equals ∈ column.family.operators := by
    rcases hplain with h | h <;> rw [h] <;> decide
  have hresolve := Criterion.resolve_of_coerce hcolumn hname hknown rfl hother hgiven hcoerce
  have hid : column.id = criterion.columnId := by simpa using List.find?_some hcolumn
  have htype : store.columnType column.id = column.type :=
    columnType_of_schema keyed hschema (hid ▸ hcolumn)
  let resolved : Resolved := ⟨criterion, column, .equals, .text needle, .null⟩
  obtain ⟨test, htest, hholds⟩ :=
    @Resolved.equalTest?_of_text resolved needle value stored setting.zone hplain rfl hne hstored
  have hcondition : Constraints.standard.condition? setting resolved =
      .ok (some (.someCell column.id test)) := by
    rw [Resolved.standard_condition?_equals rfl, Resolved.someCell?, htest]
    rfl
  refine ⟨resolved, _, hresolve, hcondition, stored, asked, hstored, hasked, hneedle, ?_⟩
  rw [written.someCell_truth_iff htype hcell, hholds, hneedle]
  exact Family.comparedText_eq_iff

end Equality

namespace Store

/-- A table of names and numbers, with blanks at the ends of some texts. -/
def phoneBook : Store :=
  let table := ((empty.addTable 7).addColumn 7 ⟨1, "name", "text", 0, none⟩).addColumn 7
    ⟨2, "number", "phone", 1, none⟩
  (table.insertRow .utc ⟨1, 7, ⟨0, Reading.zero_lt⟩⟩ [(1, .text " Ada "), (2, .text "12")]).insertRow
    .utc ⟨2, 7, ⟨0, Reading.zero_lt⟩⟩ [(1, .text "\tAda"), (2, .text " 12")]

theorem grown_phoneBook :
    Grown .utc phoneBook
      ((Contents.writeRow (fun _ _ => none) 1 [(1, .text " Ada "), (2, .text "12")]).writeRow 2
        [(1, .text "\tAda"), (2, .text " 12")]) := by
  refine .insertRow _ _ (.insertRow _ _ (.addColumn 7 _ (.addColumn 7 _ (.addTable 7 .empty) ?_ ?_)
    ?_ ?_))
  all_goals simp [addColumn, addTable, empty, emptyOf]

theorem text_equality_iff_phoneBook :
    let setting : Setting := ⟨.utc, ⟨⟨0, Reading.zero_lt⟩, none⟩, ⟨true⟩⟩
    let schema : Schema := ⟨[⟨1, "name", "text", 0, none⟩, ⟨2, "number", "phone", 1, none⟩]⟩
    let named : Criterion := ⟨1, "equals", .text "\tAda ", .null, none, none, by decide, by decide⟩
    ∃ resolved condition, named.resolve setting.zone schema = .ok (.resolved resolved) ∧
      Constraints.standard.condition? setting resolved = .ok (some condition) ∧
      condition.truth (phoneBook.cellsAt 1) = some true := by
  intro setting schema named
  have hschema : phoneBook.schema 7 = .ok schema := by cbv
  have hcolumn : schema.column? named.columnId = some ⟨1, "name", "text", 0, none⟩ := by cbv
  have hcoerce : coerce setting.zone "text" named.value = .ok (.usable (.text "Ada")) := by cbv
  have hcell : Contents.writeRow (Contents.writeRow (fun _ _ => none) 1
      [(1, .text " Ada "), (2, .text "12")]) 2 [(1, .text "\tAda"), (2, .text " 12")] 1 1 =
      some (.text " Ada ") := by cbv
  obtain ⟨resolved, condition, hresolve, hcondition, stored, asked, hstored, hasked, -, htruth⟩ :=
    text_equality_iff grown_phoneBook.keyed hschema grown_phoneBook.written hcolumn (.inl rfl) rfl rfl
      hcoerce (by decide) hcell rfl
  cases hstored
  cases hasked
  refine ⟨resolved, condition, hresolve, hcondition, htruth.mpr ⟨by cbv, ?_⟩⟩
  rw [← Text.trimBy_eq_self_iff]
  cbv

/-- A tab in a text, and any blank in an unknown type, hides the row from the trimmed text. -/
theorem text_equality_fails_phoneBook :
    let setting : Setting := ⟨.utc, ⟨⟨0, Reading.zero_lt⟩, none⟩, ⟨true⟩⟩
    let schema : Schema := ⟨[⟨1, "name", "text", 0, none⟩, ⟨2, "number", "phone", 1, none⟩]⟩
    let named : Criterion := ⟨1, "equals", .text "Ada", .null, none, none, by decide, by decide⟩
    let numbered : Criterion := ⟨2, "equals", .text "12", .null, none, none, by decide, by decide⟩
    phoneBook.schema 7 = .ok schema ∧ trimmed "\tAda" = trimmed "Ada" ∧ trimmed " 12" = trimmed "12" ∧
      ∃ first second,
        Predicate.ofCriteria .standard setting schema 7 [named] "" = .ok first ∧
        Predicate.ofCriteria .standard setting schema 7 [numbered] "" = .ok second ∧
        (phoneBook.matching first).map (·.id) = [1] ∧
        (phoneBook.matching second).map (·.id) = [1] := by
  intro setting schema named numbered
  exact ⟨by cbv, by cbv, by cbv, _, _, by cbv, by cbv, by cbv, by cbv⟩

end Store

end GridQuery
