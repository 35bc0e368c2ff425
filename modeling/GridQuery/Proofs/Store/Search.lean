import GridQuery.Proofs.Store.TextOperators
import GridQuery.Proofs.Text.LatinLetters
import GridQuery.Proofs.Text.Wildcard

/-!
# Searching the cells of a row

A search looks for its term in the texts kept beside the cells of a row, with Latin letters in either case
and every other character as it is.  The criterion of one column that asks for the same term goes by small
letters of all scripts, so that it may pass a row that the search does not find.
-/

namespace GridQuery

theorem mem_of_mem_trimmed {c : Char} {term : String} (h : c ∈ (trimmed term).toList) : c ∈ term.toList := by
  obtain ⟨front, back, hterm, -, -⟩ := Text.exists_trimBy Text.isBlank term.toList
  rw [toList_trimmed] at h
  rw [hterm]
  exact List.mem_append_right front (List.mem_append_left back h)

theorem trimmed_eq_empty_iff {term : String} : trimmed term = "" ↔ ∀ c ∈ term.toList, Text.isBlank c = true := by
  rw [← String.toList_inj, toList_trimmed, String.toList_empty]
  obtain ⟨front, back, hterm, hfront, hback⟩ := Text.exists_trimBy Text.isBlank term.toList
  constructor
  · intro h c hc
    rw [Text.trim] at h
    rw [hterm, h, List.nil_append] at hc
    exact (List.mem_append.mp hc).elim (hfront c) (hback c)
  · intro h
    rw [Text.trim, Text.trimBy, List.dropWhile_eq_nil_iff.mpr h]
    rfl

namespace Condition
variable {term : String} {condition : Condition}

theorem search?_eq_some_iff : search? term = some condition ↔
    trimmed term ≠ "" ∧ someText (trimmed term) = condition := by
  unfold search?
  by_cases h : trimmed term = ""
  · simp [h]
  · simp [h, String.isEmpty_iff]

theorem search?_eq_none_iff : search? term = none ↔ ∀ c ∈ term.toList, Text.isBlank c = true := by
  rw [← trimmed_eq_empty_iff, Option.eq_none_iff_forall_ne_some]
  simp [search?_eq_some_iff]

theorem isLike_searchPattern_iff {text : List Char} (hterm : '\x00' ∉ term.toList) (htext : '\x00' ∉ text) :
    Text.isLike '/' (searchPattern term) (Text.asciiLower text) = true ↔
      Text.asciiLower term.toList <:+: Text.asciiLower text := by
  have hnul : ('\x00' : Char).isAlpha = false := by decide
  rw [searchPattern, Text.asciiLower_literal (by decide),
    Text.isLike_containing_iff (by decide) (by decide) (mt (Text.mem_asciiLower_iff hnul).mp hterm)
      (mt (Text.mem_asciiLower_iff hnul).mp htext),
    Text.asciiLower_asciiLower, Text.asciiLower_asciiLower]

end Condition

namespace Store
variable {store : Store} {term : String}

theorem someText_truth_iff {rowId : Int} : (Condition.someText term).truth (store.cellsAt rowId) = some true ↔
    ∃ cell ∈ store.cells.getD [], cell.rowId = rowId ∧ ∃ text, cell.projections.text = some text ∧
      Text.isLike '/' (Condition.searchPattern term) (Text.asciiLower text.toList) = true := by
  rw [Condition.truth_eq_some_holds, Option.some.injEq, Condition.holds, cellsAt, projected]
  simp only [List.any_map, List.any_filter, List.any_eq_true, Function.comp_apply, Bool.and_eq_true,
    beq_iff_eq, Option.any_eq_true]

/-- A search for blanks demands nothing.  Any other one is true of a row if and only if the text beside some
of its cells contains the term without the blanks around it, with Latin letters in either case; wildcards in
the term, and what escapes them, stand for themselves. -/
theorem search_iff_contains (store : Store) (hterm : '\x00' ∉ term.toList) :
    (Condition.search? term = none ↔ ∀ c ∈ term.toList, Text.isBlank c = true) ∧
    ∀ condition, Condition.search? term = some condition → ∀ row : StoredRow,
      (∀ cell ∈ store.cells.getD [], cell.rowId = row.id → ∀ text, cell.projections.text = some text →
        '\x00' ∉ text.toList) →
      (condition.truth (store.cellsAt row.id) = some true ↔
        ∃ cell ∈ store.cells.getD [], cell.rowId = row.id ∧ ∃ text, cell.projections.text = some text ∧
          Text.asciiLower (trimmed term).toList <:+: Text.asciiLower text.toList) := by
  refine ⟨Condition.search?_eq_none_iff, ?_⟩
  intro condition hcondition row htexts
  obtain ⟨-, rfl⟩ := Condition.search?_eq_some_iff.mp hcondition
  have hterm : '\x00' ∉ (trimmed term).toList := fun h => hterm (mem_of_mem_trimmed h)
  rw [someText_truth_iff]
  constructor
  · rintro ⟨cell, hmem, hrow, text, htext, hlike⟩
    exact ⟨cell, hmem, hrow, text, htext,
      (Condition.isLike_searchPattern_iff hterm (htexts cell hmem hrow text htext)).mp hlike⟩
  · rintro ⟨cell, hmem, hrow, text, htext, hcontains⟩
    exact ⟨cell, hmem, hrow, text, htext,
      (Condition.isLike_searchPattern_iff hterm (htexts cell hmem hrow text htext)).mpr hcontains⟩

def notices : Store :=
  (((empty.addTable 7).addColumn 7 ⟨1, "notice", "text", 0, none⟩).insertRow .utc
    ⟨1, 7, ⟨0, Reading.zero_lt⟩⟩ [(1, .text "\u00c9t\u00e9: OPEN, 50%_off")]).insertRow .utc
      ⟨2, 7, ⟨0, Reading.zero_lt⟩⟩ [(1, .text "CAF\u00c9, 50% off")]

def noticeContents : Contents :=
  Contents.writeRow (Contents.writeRow (fun _ _ => none) 1 [(1, .text "\u00c9t\u00e9: OPEN, 50%_off")]) 2
    [(1, .text "CAF\u00c9, 50% off")]

theorem grown_notices : Grown .utc notices noticeContents := by
  refine .insertRow _ _ (.insertRow _ _ (.addColumn 7 _ (.addTable 7 .empty) ?_ ?_))
  all_goals simp [addTable, empty, emptyOf]

theorem cells_notices : ∃ first second, notices.cells = some [first, second] ∧
    first.rowId = 1 ∧ first.projections.text = some "\u00c9t\u00e9: OPEN, 50%_off" ∧
    second.rowId = 2 ∧ second.projections.text = some "CAF\u00c9, 50% off" :=
  ⟨_, _, rfl, rfl, by cbv, rfl, by cbv⟩

/-- The term is found without its blanks and in either case, and not where wildcards would find it. -/
theorem search_iff_contains_notices :
    ∃ condition, Condition.search? " 50%_OFF\t" = some condition ∧
      condition.truth (notices.cellsAt 1) = some true ∧ ¬ condition.truth (notices.cellsAt 2) = some true := by
  obtain ⟨first, second, hcells, hrow, htext, hrow', htext'⟩ := cells_notices
  have hterm : '\x00' ∉ " 50%_OFF\t".toList := by decide +kernel
  obtain ⟨-, hfinds⟩ := search_iff_contains notices hterm
  have htrimmed : trimmed " 50%_OFF\t" = "50%_OFF" := by decide +kernel
  have hsearch : Condition.search? " 50%_OFF\t" = some (.someText "50%_OFF") := by
    rw [Condition.search?_eq_some_iff, htrimmed]
    exact ⟨by decide, rfl⟩
  have hnul : ∀ cell ∈ notices.cells.getD [], ∀ text, cell.projections.text = some text →
      '\x00' ∉ text.toList := by
    simp only [hcells, Option.getD_some, List.forall_mem_cons, htext, htext', Option.some.injEq, forall_eq']
    exact ⟨by decide +kernel, by decide +kernel, fun _ hmem => absurd hmem List.not_mem_nil⟩
  have hfirst := hfinds _ hsearch ⟨1, 7, ⟨0, Reading.zero_lt⟩⟩ fun cell hmem _ => hnul cell hmem
  have hsecond := hfinds _ hsearch ⟨2, 7, ⟨0, Reading.zero_lt⟩⟩ fun cell hmem _ => hnul cell hmem
  refine ⟨_, hsearch, hfirst.mpr ?_, mt hsecond.mp ?_⟩
  · rw [hcells, htrimmed]
    exact ⟨first, List.mem_cons_self, hrow, _, htext, by decide +kernel⟩
  · rw [hcells, htrimmed]
    simp only [Option.getD_some, List.mem_cons, List.not_mem_nil, or_false, exists_eq_or_imp, exists_eq_left,
      hrow, hrow', htext', Option.some.injEq, exists_eq_left', OfNat.one_ne_ofNat, false_and, false_or, true_and]
    decide +kernel

end Store

theorem Operator.name_ne_empty (operator : Operator) : operator.name ≠ "" := by
  cases operator <;> decide

namespace Criterion

def withOperator (criterion : Criterion) (operator : Operator) : Criterion :=
  { criterion with operator := operator.name, operator_ne := operator.name_ne_empty }

theorem withOperator_self {criterion : Criterion} {operator : Operator}
    (h : criterion.operator = operator.name) : criterion.withOperator operator = criterion := by
  obtain ⟨columnId, name, value, secondValue, columnName, columnType, hpos, hne⟩ := criterion
  obtain rfl := h
  rfl

theorem asking_withOperator {criterion : Criterion} {schema : Schema} {column : Column}
    (hcolumn : schema.column? criterion.columnId = some column) :
    Asking column criterion.value criterion.withOperator where
  columnId _ := (Schema.id_of_column? hcolumn).symm
  operator _ := rfl
  value _ := rfl

end Criterion

theorem coerce_text_of_text {zone : Zone} {column : Column} (h : column.family = .text) (term : String) :
    coerce zone column.type (.text term) = .ok (.usable (.text (trimmed term))) := by
  rw [Value.coerce_of_plain (.inl h) (Family.isStructured_of_text h) rfl, Coerced.past_eq_usable_iff]
  exact ⟨rfl, rfl⟩

namespace Store
variable {setting : Setting} {store : Store} {tableId : Int} {schema : Schema} {contents : Contents}
  {column : Column} {criterion : Criterion} {term : String} {row : StoredRow}

/-- A row passes for a text in a column if what is read back from its cell contains the term without its
blanks, both in small letters. -/
theorem Written.admits_contains_iff (written : store.Written setting.zone contents)
    (hcolumn : schema.column? criterion.columnId = some column) (hfamily : column.family = .text)
    (hoperator : criterion.operator = Operator.contains.name) (hvalue : criterion.value = .text term)
    (hterm : trimmed term ≠ "") :
    store.admits setting schema row criterion = true ↔
      ∃ stored, contents row.id column.id = some stored ∧ stored ≠ .null ∧ stored ≠ .text "" ∧
        ∃ text, (store.keeping.kept stored).canonicalText? "" = some text ∧
          Text.lower (trimmed term).toList <:+: Text.lower text.toList := by
  have asking := Criterion.asking_withOperator hcolumn
  rw [← Schema.id_of_column? hcolumn] at hcolumn
  have hcoerce : coerce setting.zone column.type criterion.value = .ok (.usable (.text (trimmed term))) := by
    rw [hvalue]
    exact coerce_text_of_text hfamily term
  have h := @Written.admits_asking_iff setting store schema contents column criterion.value (trimmed term)
    criterion.withOperator row .contains written asking hcolumn hfamily hcoerce hterm (by decide)
  rwa [Criterion.withOperator_self hoperator] at h

theorem Written.admits_contains_of_text (written : store.Written setting.zone contents)
    (hcolumn : schema.column? criterion.columnId = some column) (hfamily : column.family = .text)
    (hoperator : criterion.operator = Operator.contains.name) (hvalue : criterion.value = .text term)
    {text : String} (hcell : contents row.id column.id = some (.text text)) (hterm : trimmed term ≠ "")
    (hcontains : Text.lower (trimmed term).toList <:+: Text.lower text.toList) (htext : text ≠ "") :
    store.admits setting schema row criterion = true := by
  have hkept : store.keeping.kept (.text text) = .text text := Keeping.kept_eq_text_iff.mpr rfl
  refine (written.admits_contains_iff hcolumn hfamily hoperator hvalue hterm).mpr
    ⟨.text text, hcell, Value.noConfusion, fun h => htext (Value.text.inj h), text, ?_, hcontains⟩
  rw [hkept]
  rfl

/-- What contains a term in a column of text is found by a search for it, if both see the term and the text
alike and the text that is kept beside the value is the one that is read back, as it is for all values but
numbers that come back as other ones. -/
theorem search_of_contains (keyed : ((store.columns.getD []).map (·.2.id)).Nodup)
    (hschema : store.schema tableId = .ok schema) (written : store.Written setting.zone contents)
    (hcolumn : schema.column? criterion.columnId = some column) (hfamily : column.family = .text)
    (hoperator : criterion.operator = Operator.contains.name) (hvalue : criterion.value = .text term)
    (hterm : ¬ ∀ c ∈ term.toList, Text.isBlank c = true)
    (hadmits : store.admits setting schema row criterion = true) :
    ∃ condition stored text, Condition.search? term = some condition ∧
      contents row.id column.id = some stored ∧ stored.canonicalText? column.type = some text ∧
      (store.keeping.Restores stored → (store.keeping.kept stored).canonicalText? "" = some text) ∧
      ((store.keeping.kept stored).canonicalText? "" = some text → '\x00' ∉ text.toList →
        Text.SeenAlike (trimmed term).toList text.toList →
          condition.truth (store.cellsAt row.id) = some true) := by
  have hne : trimmed term ≠ "" := mt trimmed_eq_empty_iff.mp hterm
  have htype : store.columnType column.id = column.type :=
    columnType_of_schema keyed hschema (Schema.id_of_column? hcolumn ▸ hcolumn)
  obtain ⟨stored, hcell, hnull, -, found, hfound, hcontains⟩ :=
    (written.admits_contains_iff hcolumn hfamily hoperator hvalue hne).mp hadmits
  have hgiven : stored.isNull = false := Bool.eq_false_iff.mpr (mt Value.eq_null_of_isNull hnull)
  obtain ⟨text, htext⟩ := Option.isSome_iff_exists.mp (Value.canonicalText?_isSome hgiven column.type)
  have hreference : column.type ≠ "reference" := by
    intro h
    rw [Column.family, h] at hfamily
    cases hfamily
  refine ⟨.someText (trimmed term), stored, text, Condition.search?_eq_some_iff.mpr ⟨hne, rfl⟩, hcell, htext,
    fun hrestores => ((Keeping.canonicalText?_kept_iff hreference).mpr hrestores).trans htext, ?_⟩
  intro hsame hnul alike
  obtain rfl := Option.some.inj (hsame.symm.trans hfound)
  have hfolded : Text.asciiLower (trimmed term).toList <:+: Text.asciiLower text.toList :=
    alike.infix_asciiLower (by simpa using hne) hcontains
  have hterm : '\x00' ∉ (trimmed term).toList := by
    have hletter : ('\x00' : Char).isAlpha = false := by decide
    intro hmem
    rw [← Text.mem_asciiLower_iff hletter] at hmem hnul
    exact hnul (hfolded.subset hmem)
  obtain ⟨cell, hmem, hrow, hcolumnId⟩ := written.present row.id column.id stored hcell
  obtain ⟨value, hvalue, -, hprojections⟩ := written.kept cell hmem
  rw [hrow, hcolumnId, hcell, Option.some.injEq] at hvalue
  rw [hcolumnId, htype, ← hvalue] at hprojections
  have hshown : cell.projections.text = some text := by
    rw [hprojections]
    exact htext
  have hlike := (Condition.isLike_searchPattern_iff hterm hnul).mpr hfolded
  exact someText_truth_iff.mpr ⟨cell, hmem, hrow, text, hshown, hlike⟩

/-- Accents that the term does not ask for are in no one's way. -/
theorem search_of_contains_notices :
    let setting : Setting := ⟨.utc, ⟨⟨0, Reading.zero_lt⟩, none⟩, ⟨true⟩⟩
    let schema : Schema := ⟨[⟨1, "notice", "text", 0, none⟩]⟩
    let row : StoredRow := ⟨1, 7, ⟨0, Reading.zero_lt⟩⟩
    notices.admits setting schema row (askFirst (.text " open, 50%") .contains) = true ∧
      ∃ condition, Condition.search? " open, 50%" = some condition ∧
        condition.truth (notices.cellsAt row.id) = some true := by
  intro setting schema row
  have hschema : notices.schema 7 = .ok schema := by cbv
  have hcolumn : schema.column? 1 = some ⟨1, "notice", "text", 0, none⟩ := by cbv
  have hcell : noticeContents 1 1 = some (.text "\u00c9t\u00e9: OPEN, 50%_off") := by cbv
  have htrimmed : trimmed " open, 50%" = "open, 50%" := by decide +kernel
  have hterm : ¬ ∀ c ∈ " open, 50%".toList, Text.isBlank c = true := by
    rw [← trimmed_eq_empty_iff, htrimmed]
    decide
  have hadmits : notices.admits setting schema row (askFirst (.text " open, 50%") .contains) = true := by
    have hcontains : Text.lower "open, 50%".toList <:+:
        Text.lower "\u00c9t\u00e9: OPEN, 50%_off".toList := by decide +kernel
    rw [← htrimmed] at hcontains
    exact grown_notices.written.admits_contains_of_text hcolumn rfl rfl rfl hcell (by rw [htrimmed]; decide)
      hcontains (by decide)
  obtain ⟨condition, stored, text, hsearch, hstored, htext, hsame, hfinds⟩ :=
    search_of_contains grown_notices.keyed hschema grown_notices.written hcolumn rfl rfl rfl hterm
      hadmits
  obtain rfl := Option.some.inj (hcell.symm.trans hstored)
  cases htext
  refine ⟨hadmits, condition, hsearch, hfinds (hsame trivial) (by decide +kernel) ?_⟩
  rw [htrimmed]
  decide +kernel

/-- The row contains the term in small letters, and the search does not find it. -/
theorem search_of_contains_fails_notices :
    let setting : Setting := ⟨.utc, ⟨⟨0, Reading.zero_lt⟩, none⟩, ⟨true⟩⟩
    let schema : Schema := ⟨[⟨1, "notice", "text", 0, none⟩]⟩
    let row : StoredRow := ⟨2, 7, ⟨0, Reading.zero_lt⟩⟩
    notices.schema 7 = .ok schema ∧
      notices.admits setting schema row (askFirst (.text "caf\u00e9") .contains) = true ∧
      Condition.search? "caf\u00e9" = some (.someText "caf\u00e9") ∧
      ¬ (Condition.someText "caf\u00e9").truth (notices.cellsAt row.id) = some true := by
  intro setting schema row
  have hschema : notices.schema 7 = .ok schema := by cbv
  have hcolumn : schema.column? 1 = some ⟨1, "notice", "text", 0, none⟩ := by cbv
  have hcell : noticeContents 2 1 = some (.text "CAF\u00c9, 50% off") := by cbv
  have htrimmed : trimmed "caf\u00e9" = "caf\u00e9" := by decide +kernel
  refine ⟨hschema, ?_, ?_, ?_⟩
  · have hcontains : Text.lower "caf\u00e9".toList <:+: Text.lower "CAF\u00c9, 50% off".toList := by
      decide +kernel
    rw [← htrimmed] at hcontains
    exact grown_notices.written.admits_contains_of_text hcolumn rfl rfl rfl hcell (by rw [htrimmed]; decide)
      hcontains (by decide)
  · rw [Condition.search?_eq_some_iff, htrimmed]
    exact ⟨by decide, rfl⟩
  · obtain ⟨first, second, hcells, hrow, -, hrow', htext'⟩ := cells_notices
    rw [someText_truth_iff, hcells]
    simp only [Option.getD_some, List.mem_cons, List.not_mem_nil, or_false, exists_eq_or_imp, exists_eq_left,
      hrow, hrow', htext', Option.some.injEq, exists_eq_left', row, OfNat.one_ne_ofNat, false_and, false_or,
      true_and]
    decide +kernel

end Store

end GridQuery
