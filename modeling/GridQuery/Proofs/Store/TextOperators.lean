import GridQuery.Proofs.Place
import GridQuery.Proofs.Store.Capability
import GridQuery.Proofs.Store.TextEquality
import GridQuery.Proofs.Verbatim

/-!
# Operators on texts and one another

What a row passes for one operator on a column of text it passes for another, as the names of the
operators say: a beginning and an end are contained, and so is an equal text, whatever blanks the store
trims.  Equality looks at the text kept beside a cell and the other operators at the value that is read
back, so that the two have to have one text.
-/

namespace GridQuery

/-- Criteria that ask a column for one value, each with its own operator. -/
structure Asking (column : Column) (value : Value) (ask : Operator → Criterion) : Prop where
  columnId : ∀ operator, (ask operator).columnId = column.id
  operator : ∀ operator, (ask operator).operator = operator.name
  value : ∀ operator, (ask operator).value = value

theorem Value.ne_empty_of_trimmed {value : Value} {type text needle : String}
    (htext : value.canonicalText? type = some text)
    (htrim : Text.trimBy (· = ' ') text.toList = needle.toList) (hne : needle ≠ "") :
    value ≠ .null ∧ value ≠ .text "" := by
  constructor
  · rintro rfl
    cases htext
  · rintro rfl
    cases htext
    exact hne (String.toList_inj.mp htrim.symm)

namespace Operator
variable {needle text : String}

theorem finds_contains_of_startsWith (h : startsWith.Finds needle text) : contains.Finds needle text :=
  List.IsPrefix.isInfix h

theorem finds_contains_of_endsWith (h : endsWith.Finds needle text) : contains.Finds needle text :=
  List.IsSuffix.isInfix h

theorem finds_contains_of_trimmed (h : Text.trimBy (· = ' ') text.toList = needle.toList) :
    contains.Finds needle text := by
  obtain ⟨front, back, htext, hfront, hback⟩ := Text.exists_trimBy (· = ' ') text.toList
  rw [h] at htext
  have hblanks : ∀ chars : List Char, (∀ c ∈ chars, decide (c = ' ') = true) →
      Text.casedNext chars = false := by
    intro chars hall
    cases chars with
    | nil => rfl
    | cons c rest =>
      obtain rfl := of_decide_eq_true (hall c List.mem_cons_self)
      exact Text.casedNext_blank rest
  refine Residual.contains_of_keepsForms htext (Text.keepsForms_of_casedNext ?_ (hblanks back hback) _)
  exact hblanks _ fun c hc => hfront c (List.mem_reverse.mp hc)

end Operator

namespace Store

def Fulfils (store : Store) (setting : Setting) (schema : Schema) (row : StoredRow) (criterion : Criterion) :
    Prop :=
  ∃ condition, criterion.condition? .standard setting schema = some condition ∧
    condition.truth (store.cellsAt row.id) = some true

variable {setting : Setting} {store : Store} {tableId : Int} {schema : Schema} {contents : Contents}
  {column : Column} {value : Value} {needle : String} {ask : Operator → Criterion} {row : StoredRow}
  {operator : Operator}

section Passing
variable (written : store.Written setting.zone contents) (asking : Asking column value ask)
  (hcolumn : schema.column? column.id = some column) (hfamily : column.family = .text)
  (hcoerce : coerce setting.zone column.type value = .ok (.usable (.text needle))) (hne : needle ≠ "")
include asking hcolumn hfamily hcoerce

theorem resolve_of_asking (hknown : operator ∈ Operator.equals :: Operator.lexical) :
    (ask operator).resolve setting.zone schema =
      .ok (.resolved ⟨ask operator, column, operator, .text needle, .null⟩) := by
  have hnull : value.isNull = false := by
    cases value with
    | null => cases hcoerce
    | _ => rfl
  have hother : column.family ≠ .numeric ∧ column.family ≠ .date := by
    rw [hfamily]
    exact ⟨nofun, nofun⟩
  refine Criterion.resolve_of_coerce ?_ (asking.operator operator) ?_ ?_ hother ?_ ?_
  · rw [asking.columnId]
    exact hcolumn
  · rw [hfamily]
    revert operator
    decide
  · revert operator
    decide
  · rw [asking.value]
    exact hnull
  · rw [asking.value]
    exact hcoerce

include hne in
/-- The store asks for the trimmed text, and finds it in what it keeps beside the value. -/
theorem Written.fulfils_equals_iff (written : store.Written setting.zone contents)
    (htype : store.columnType column.id = column.type) :
    store.Fulfils setting schema row (ask .equals) ↔
      ∃ stored text, contents row.id column.id = some stored ∧ stored.canonicalText? column.type = some text ∧
        Text.trimBy (· = ' ') text.toList = needle.toList := by
  have hresolve := resolve_of_asking asking hcolumn hfamily hcoerce List.mem_cons_self
  have hcondition : (ask .equals).condition? .standard setting schema =
      some (.someCell column.id (.trimmedTextIs needle)) := by
    rw [Criterion.condition?, Criterion.resolved?_eq_some_iff.mpr hresolve, Option.bind_some,
      Constraints.compiled?, Resolved.standard_condition?_equals rfl]
    simp [Resolved.someCell?, Resolved.equalTest?, Resolved.family, hfamily, hne]
  simp only [Fulfils, hcondition, Option.some.injEq, exists_eq_left', Condition.truth_eq_some_holds]
  rw [Condition.holds, written.any_cellsAt row.id column.id fun cell => CellTest.holds cell _, htype,
    Option.any_eq_true]
  simp [CellTest.holds, Projections.of, Option.any_eq_true]

include written hne in
/-- An operator on the characters of a text is asked of the value that is read back. -/
theorem Written.admits_asking_iff (hlexical : operator ∈ Operator.lexical) :
    store.admits setting schema row (ask operator) = true ↔
      ∃ stored, contents row.id column.id = some stored ∧ stored ≠ .null ∧ stored ≠ .text "" ∧
        ∃ text, (store.keeping.kept stored).canonicalText? "" = some text ∧ operator.Finds needle text := by
  have hresolve := resolve_of_asking asking hcolumn hfamily hcoerce
    (List.mem_cons_of_mem Operator.equals hlexical)
  have hresidual : operator ∈ setting.capabilities.residualOperators :=
    Capabilities.mem_residualOperators_iff.mpr (.inl hlexical)
  have hbuilds : (ask operator).Builds .standard setting schema := by
    refine ⟨⟨_, hresolve⟩, fun resolved hresolved => ?_⟩
    rw [Criterion.resolved?_eq_some_iff, hresolve] at hresolved
    cases hresolved
    exact ⟨_, Resolved.condition?_of_residual hfamily hresidual rfl⟩
  rw [written.admits_iff hbuilds, hresolve]
  simp only [Except.ok.injEq, Resolution.resolved.injEq, forall_eq']
  rw [Satisfies, if_pos hresidual]
  simp only [Value.text.injEq, exists_eq_left', ne_eq, hne, not_false_eq_true, forall_const]
  have hfound := written.exists_cell_iff row.id column.id fun value => value ≠ .null ∧ value ≠ .text "" ∧
    ∃ text, value.canonicalText? "" = some text ∧ operator.Finds needle text
  simp only [Ne, Keeping.kept_eq_null_iff, Keeping.kept_eq_text_iff] at hfound
  exact hfound

include written hne in
theorem Written.admits_contains_of_admits
    (h : store.admits setting schema row (ask .startsWith) ∨ store.admits setting schema row (ask .endsWith)) :
    store.admits setting schema row (ask .contains) := by
  have passes {operator : Operator} (hlexical : operator ∈ Operator.lexical) :=
    @Written.admits_asking_iff setting store schema contents column value needle ask row operator written
      asking hcolumn hfamily hcoerce hne hlexical
  rw [passes (by decide), passes (by decide)] at h
  rw [passes (by decide)]
  rcases h with ⟨stored, hcell, hnull, hempty, text, htext, hfinds⟩ |
    ⟨stored, hcell, hnull, hempty, text, htext, hfinds⟩
  · exact ⟨stored, hcell, hnull, hempty, text, htext, Operator.finds_contains_of_startsWith hfinds⟩
  · exact ⟨stored, hcell, hnull, hempty, text, htext, Operator.finds_contains_of_endsWith hfinds⟩

include written hne in
theorem Written.admits_contains_of_fulfils (htype : store.columnType column.id = column.type) {stored : Value}
    (hcell : contents row.id column.id = some stored)
    (hsame : (store.keeping.kept stored).canonicalText? "" = stored.canonicalText? column.type)
    (h : store.Fulfils setting schema row (ask .equals)) :
    store.admits setting schema row (ask .contains) := by
  rw [written.fulfils_equals_iff asking hcolumn hfamily hcoerce hne htype] at h
  obtain ⟨found, text, hfound, htext, htrim⟩ := h
  obtain rfl := Option.some.inj (hcell.symm.trans hfound)
  obtain ⟨hnull, hempty⟩ := Value.ne_empty_of_trimmed htext htrim hne
  exact (written.admits_asking_iff asking hcolumn hfamily hcoerce hne (by decide)).mpr
    ⟨stored, hcell, hnull, hempty, text, hsame.trans htext, Operator.finds_contains_of_trimmed htrim⟩

include written hne in
theorem Written.admits_contains_iff_not {stored : Value} (hcell : contents row.id column.id = some stored)
    (hnull : stored ≠ .null) (hempty : stored ≠ .text "") :
    store.admits setting schema row (ask .contains) ↔
      ¬ store.admits setting schema row (ask .notContains) := by
  have hgiven : (store.keeping.kept stored).isNull = false := by
    rw [Keeping.isNull_kept, Bool.eq_false_iff]
    exact fun h => hnull (Value.eq_null_of_isNull h)
  obtain ⟨text, htext⟩ := Option.isSome_iff_exists.mp (Value.canonicalText?_isSome hgiven "")
  rw [written.admits_asking_iff asking hcolumn hfamily hcoerce hne (by decide),
    written.admits_asking_iff asking hcolumn hfamily hcoerce hne (by decide)]
  simp only [hcell, htext, Option.some.injEq, exists_eq_left', hnull, hempty, ne_eq, not_false_eq_true,
    true_and]
  exact not_not.symm

include written hne in
theorem Written.not_passes_of_empty (htype : store.columnType column.id = column.type)
    (hnone : ∀ stored, contents row.id column.id = some stored → stored = .null ∨ stored = .text "") :
    ¬ store.Fulfils setting schema row (ask .equals) ∧
      ∀ operator ∈ Operator.lexical, ¬ store.admits setting schema row (ask operator) := by
  constructor
  · rw [written.fulfils_equals_iff asking hcolumn hfamily hcoerce hne htype]
    rintro ⟨stored, text, hcell, htext, htrim⟩
    obtain ⟨hnull, hempty⟩ := Value.ne_empty_of_trimmed htext htrim hne
    exact (hnone stored hcell).elim hnull hempty
  · intro operator hlexical
    rw [written.admits_asking_iff asking hcolumn hfamily hcoerce hne hlexical]
    rintro ⟨stored, hcell, hnull, hempty, -⟩
    exact (hnone stored hcell).elim hnull hempty

end Passing

/-- In a column of text, a row that passes for a beginning or an end passes for what it contains; so does
one that is found by equality, if the value in its cell is read back with the text that is kept beside it,
as all values are but numbers that come back as other ones.  A row with a value that is not empty either contains
a text or does not, and one without such a value passes for nothing. -/
theorem text_operators_implied
    (keyed : ((store.columns.getD []).map (·.2.id)).Nodup)
    (hschema : store.schema tableId = .ok schema) (written : store.Written setting.zone contents)
    (asking : Asking column value ask) (hcolumn : schema.column? column.id = some column)
    (hfamily : column.family = .text)
    (hcoerce : coerce setting.zone column.type value = .ok (.usable (.text needle))) (hne : needle ≠ "")
    (row : StoredRow) :
    (store.admits setting schema row (ask .startsWith) ∨ store.admits setting schema row (ask .endsWith) →
      store.admits setting schema row (ask .contains)) ∧
    (∀ stored, contents row.id column.id = some stored →
      (store.keeping.Restores stored →
        (store.keeping.kept stored).canonicalText? "" = stored.canonicalText? column.type) ∧
      ((store.keeping.kept stored).canonicalText? "" = stored.canonicalText? column.type →
        store.Fulfils setting schema row (ask .equals) → store.admits setting schema row (ask .contains)) ∧
      (stored ≠ .null → stored ≠ .text "" →
        (store.admits setting schema row (ask .contains) ↔
          ¬ store.admits setting schema row (ask .notContains)))) ∧
    ((∀ stored, contents row.id column.id = some stored → stored = .null ∨ stored = .text "") →
      ¬ store.Fulfils setting schema row (ask .equals) ∧
      ∀ operator ∈ Operator.lexical, ¬ store.admits setting schema row (ask operator)) := by
  have htype := columnType_of_schema keyed hschema hcolumn
  have hreference : column.type ≠ "reference" := by
    intro h
    rw [Column.family, h] at hfamily
    cases hfamily
  refine ⟨written.admits_contains_of_admits asking hcolumn hfamily hcoerce hne, ?_,
    written.not_passes_of_empty asking hcolumn hfamily hcoerce hne htype⟩
  intro stored hcell
  refine ⟨(Keeping.canonicalText?_kept_iff hreference).mpr, ?_, ?_⟩
  · exact written.admits_contains_of_fulfils asking hcolumn hfamily hcoerce hne htype hcell
  · exact written.admits_contains_iff_not asking hcolumn hfamily hcoerce hne hcell

def askFirst (value : Value) (operator : Operator) : Criterion :=
  ⟨1, operator.name, value, .null, none, none, by decide, by cases operator <;> decide⟩

theorem asking_askFirst (value : Value) (name : String) :
    Asking ⟨1, name, "text", 0, none⟩ value (askFirst value) where
  columnId _ := rfl
  operator _ := rfl
  value _ := rfl

/-- The row with blanks around the name is found by equality, and contains the name. -/
theorem text_operators_implied_phoneBook :
    let setting : Setting := ⟨.utc, ⟨⟨0, Reading.zero_lt⟩, none⟩, ⟨true⟩⟩
    let schema : Schema := ⟨[⟨1, "name", "text", 0, none⟩, ⟨2, "number", "phone", 1, none⟩]⟩
    let row : StoredRow := ⟨1, 7, ⟨0, Reading.zero_lt⟩⟩
    phoneBook.Fulfils setting schema row (askFirst (.text "\tAda") .equals) ∧
      phoneBook.admits setting schema row (askFirst (.text "\tAda") .contains) ∧
      ¬ phoneBook.admits setting schema row (askFirst (.text "\tAda") .notContains) := by
  intro setting schema row
  have hschema : phoneBook.schema 7 = .ok schema := by cbv
  have hcolumn : schema.column? 1 = some ⟨1, "name", "text", 0, none⟩ := by cbv
  have hcoerce : coerce setting.zone "text" (.text "\tAda") = .ok (.usable (.text "Ada")) := by cbv
  have hcell : Contents.writeRow (Contents.writeRow (fun _ _ => none) 1
      [(1, .text " Ada "), (2, .text "12")]) 2 [(1, .text "\tAda"), (2, .text " 12")] 1 1 =
      some (.text " Ada ") := by cbv
  obtain ⟨-, hvalue, -⟩ := text_operators_implied grown_phoneBook.keyed hschema grown_phoneBook.written
    (asking_askFirst (.text "\tAda") "name") hcolumn rfl hcoerce (by decide) row
  obtain ⟨hsame, hequal, hopposite⟩ := hvalue _ hcell
  have hfulfils : phoneBook.Fulfils setting schema row (askFirst (.text "\tAda") .equals) :=
    ⟨.someCell 1 (.trimmedTextIs "Ada"), by cbv, by cbv⟩
  have hcontains := hequal (hsame trivial) hfulfils
  have hnull : Value.text " Ada " ≠ .null := by
    intro h
    cases h
  have hempty : Value.text " Ada " ≠ .text "" := fun h => absurd (Value.text.inj h) (by decide)
  exact ⟨hfulfils, hcontains, (hopposite hnull hempty).mp hcontains⟩

def receiptsOf (keeping : Keeping) : Store :=
  (((emptyOf keeping).addTable 7).addColumn 7 ⟨1, "receipt", "text", 0, none⟩).insertRow .utc
    ⟨1, 7, ⟨0, Reading.zero_lt⟩⟩ [(1, .int 18446744073709551617)]

theorem grown_receiptsOf (keeping : Keeping) :
    Grown .utc (receiptsOf keeping)
      (Contents.writeRow (fun _ _ => none) 1 [(1, .int 18446744073709551617)]) := by
  refine .insertRow _ _ (.addColumn 7 _ (.addTable 7 (.emptyOf keeping)) ?_ ?_)
  all_goals simp [addTable, emptyOf]

def receipts : Store := receiptsOf .nearest

/-- The number is found by equality, but the one that is read back does not contain its digits. -/
theorem text_operators_fail_receipts :
    let setting : Setting := ⟨.utc, ⟨⟨0, Reading.zero_lt⟩, none⟩, ⟨true⟩⟩
    let schema : Schema := ⟨[⟨1, "receipt", "text", 0, none⟩]⟩
    let row : StoredRow := ⟨1, 7, ⟨0, Reading.zero_lt⟩⟩
    let number : Value := .text "18446744073709551617"
    receipts.schema 7 = .ok schema ∧ receipts.rows = some [row] ∧
      receipts.Fulfils setting schema row (askFirst number .equals) ∧
      ¬ receipts.admits setting schema row (askFirst number .contains) := by
  intro setting schema row number
  have hempty : receipts.schema 7 =
    ((empty.addTable 7).addColumn 7 ⟨1, "receipt", "text", 0, none⟩).schema 7 := rfl
  have hschema : receipts.schema 7 = .ok schema := by
    rw [hempty]
    cbv
  have hcolumn : schema.column? 1 = some ⟨1, "receipt", "text", 0, none⟩ := by cbv
  have hcoerce : coerce setting.zone "text" number = .ok (.usable number) := by cbv
  have hcell : Contents.writeRow (fun _ _ => none) 1 [(1, .int 18446744073709551617)] 1 1 =
      some (.int 18446744073709551617) := by cbv
  have asking := asking_askFirst number "receipt"
  have grown : Grown .utc receipts _ := grown_receiptsOf .nearest
  have written := grown.written
  have hne : "18446744073709551617" ≠ "" := by decide
  refine ⟨hschema, rfl, ?_, ?_⟩
  · refine (Written.fulfils_equals_iff asking hcolumn rfl hcoerce hne written ?_).mpr
      ⟨_, "18446744073709551617", hcell, by decide +kernel, by decide +kernel⟩
    exact columnType_of_schema grown.keyed hschema hcolumn
  · rw [written.admits_asking_iff asking hcolumn rfl hcoerce hne (by decide)]
    rintro ⟨stored, hstored, -, -, text, htext, hfinds⟩
    obtain rfl := Option.some.inj (hcell.symm.trans hstored)
    have hkept : (receipts.keeping.kept (.int 18446744073709551617)).canonicalText? "" = some "18446744073709551616" := by
      decide +kernel
    obtain rfl := Option.some.inj (hkept.symm.trans htext)
    have hmissing : ¬ Text.lower "18446744073709551617".toList <:+:
        Text.lower "18446744073709551616".toList := by decide +kernel
    exact hmissing hfinds

end Store

end GridQuery
