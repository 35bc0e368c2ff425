import GridQuery.Proofs.Number.Rereading
import GridQuery.Proofs.Store.TextEquality

/-!
# Equality of references

A store keeps a reference as its canonical text, and a criterion compares the plain text of its value.  The
two texts differ for booleans, for doubles that are whole and for most objects, and so do those of lists
with such members: a row that holds the very value of the criterion is then not found.
-/

namespace GridQuery

namespace Value

def memberText (value : Value) : String := value.scalarText?.getD "None"

/-- The text that a criterion on a reference is compared by. -/
def askedText : Value → String
  | list items => ",".intercalate (items.map plain)
  | value => value.plain

def isScalar : Value → Bool
  | null | bool _ | int _ | real _ | text _ => true
  | _ => false

/-- Criteria and stores write a scalar alike. -/
def writtenAlike : Value → Bool
  | bool _ => false
  | real x => x.toInt?.isNone
  | _ => true

variable {value : Value} {text : String} {items : List Value}

theorem canonicalText?_coerceReference (value : Value) :
    (coerceReference value).canonicalText? "reference" = some value.askedText := by
  cases value with
  | list items =>
    simp only [coerceReference, canonicalText?, askedText, List.map_map, if_pos]
    rfl
  | _ => rfl

theorem canonicalText?_list (items : List Value) :
    (list items).canonicalText? "reference" = some (",".intercalate (items.map memberText)) := by
  rw [canonicalText?, if_pos rfl]
  rfl

theorem toString_ne_empty (n : Int) : toString n ≠ "" := by
  rw [Ne, ← String.toList_inj, Json.toList_toString]
  split
  · exact List.cons_ne_nil _ _
  · exact Json.numeral_ne_nil n.natAbs

end Value

theorem Double.text_ne_empty (x : Double) : x.text ≠ "" := by
  cases x with
  | nan => decide
  | signed negative m =>
    rw [Ne, ← String.toList_inj]
    by_cases hfinite : m.isFinite
    · have hnumber := @Json.unsigned_magnitude 0 negative m hfinite []
      obtain ⟨c, more, htext, _⟩ := hnumber.head_isAsciiDigit
      rw [List.append_nil] at htext
      cases negative <;> simp [Double.text, htext]
    · have hrank : m.rank ≠ 0 := by
        intro h
        exact hfinite (by rw [Magnitude.isFinite, h]; decide)
      cases negative <;> simp [Double.text, Magnitude.written, hrank, hfinite]

namespace Value
variable {value : Value} {text : String} {items : List Value}

theorem eq_of_plain_eq_empty (h : value.plain = "") : value = .text "" := by
  cases value with
  | text s => exact congrArg Value.text h
  | null => exact absurd h (by decide)
  | bool b => exact absurd h (by cases b <;> decide)
  | int n => exact absurd h (toString_ne_empty n)
  | real x => exact absurd h x.text_ne_empty
  | _ =>
    have h := congrArg String.toList h
    simp [plain, shown, Date.text, Timestamp.text, Reading.text] at h

theorem askedText_eq_plain (h : ∀ items, value ≠ list items) : value.askedText = value.plain := by
  cases value with
  | list items => exact absurd rfl (h items)
  | _ => rfl

theorem askedText_ne_empty (h : value.canonicalText? "reference" = some text) (hne : text ≠ "") :
    value.askedText ≠ "" := by
  intro hempty
  by_cases hlist : ∃ items, value = list items
  · obtain ⟨items, rfl⟩ := hlist
    rw [canonicalText?_list, Option.some.injEq] at h
    cases items with
    | nil => exact hne h.symm
    | cons first items =>
      cases items with
      | nil =>
        have hfirst : first = .text "" := eq_of_plain_eq_empty hempty
        rw [hfirst] at h
        exact hne h.symm
      | cons second items =>
        have hempty := congrArg String.toList hempty
        simp [askedText] at hempty
  · rw [askedText_eq_plain fun items h => hlist ⟨items, h⟩] at hempty
    rw [eq_of_plain_eq_empty hempty] at h
    exact hne (Option.some.inj h).symm

theorem isFinite_of_toInt? {x : Double} {n : Int} (h : x.toInt? = some n) : x.isFinite = true := by
  cases x with
  | nan => cases h
  | signed negative m =>
    rw [Double.toInt?] at h
    split at h
    · rename_i hwhole
      exact (Bool.and_eq_true_iff.mp hwhole).1
    · cases h

theorem plain_eq_memberText_iff (h : value.isScalar = true) :
    value.plain = value.memberText ↔ value.writtenAlike = true := by
  cases value with
  | null => exact iff_of_true rfl rfl
  | int n => exact iff_of_true rfl rfl
  | text s => exact iff_of_true rfl rfl
  | bool b => exact iff_of_false (by cases b <;> decide) nofun
  | real x =>
    cases hint : x.toInt? with
    | none => simp [plain, shown, memberText, scalarText?, writtenAlike, hint]
    | some n =>
      have hmember : (real x).memberText = toString n := by
        rw [memberText, scalarText?, hint]
        rfl
      refine iff_of_false ?_ ?_
      · rw [hmember]
        exact Double.text_ne_toString (isFinite_of_toInt? hint) n
      · rw [writtenAlike, hint]
        exact Bool.false_ne_true
  | _ => cases h

theorem comma_not_mem_toString (n : Int) : ',' ∉ (toString n).toList := by
  intro hmem
  rcases Json.mem_toString hmem with h | h <;> cases h

theorem comma_not_mem (h : value.writtenAlike = false) :
    ',' ∉ value.plain.toList ∧ ',' ∉ value.memberText.toList := by
  cases value with
  | bool b => cases b <;> exact ⟨by decide, by decide⟩
  | real x =>
    obtain ⟨n, hint⟩ : ∃ n, x.toInt? = some n := by
      rw [writtenAlike, Option.isNone_eq_false_iff] at h
      exact Option.isSome_iff_exists.mp h
    constructor
    · intro hmem
      cases Double.isNumeric_text (isFinite_of_toInt? hint) ',' hmem
    · simp only [memberText, scalarText?, hint, Option.map_some, Option.getD_some]
      exact comma_not_mem_toString n
  | _ => cases h

end Value

section Commas

theorem append_comma_inj {a b rest more : List Char} (ha : ',' ∉ a) (hb : ',' ∉ b)
    (h : a ++ ',' :: rest = b ++ ',' :: more) : a = b ∧ rest = more := by
  induction a generalizing b with
  | nil =>
    cases b with
    | nil => exact ⟨rfl, List.tail_eq_of_cons_eq h⟩
    | cons d b => exact absurd (List.mem_cons_self) (List.head_eq_of_cons_eq h ▸ hb)
  | cons c a ih =>
    cases b with
    | nil => exact absurd (List.mem_cons_self) (List.head_eq_of_cons_eq h ▸ ha)
    | cons d b =>
      rw [List.cons_append, List.cons_append, List.cons.injEq] at h
      obtain ⟨rfl, h⟩ := h
      obtain ⟨rfl, hrest⟩ := ih (fun hmem => ha (List.mem_cons_of_mem c hmem))
        (fun hmem => hb (List.mem_cons_of_mem c hmem)) h
      exact ⟨rfl, hrest⟩

/-- Lists of texts with commas between them agree only member by member, if members that differ are
without commas. -/
theorem intercalate_map_eq_iff {α : Type} {f g : α → String} {items : List α}
    (h : ∀ item ∈ items, f item = g item ∨ ',' ∉ (f item).toList ∧ ',' ∉ (g item).toList) :
    ",".intercalate (items.map f) = ",".intercalate (items.map g) ↔
      ∀ item ∈ items, f item = g item := by
  constructor
  · intro heq
    induction items with
    | nil => nofun
    | cons first items ih =>
      obtain ⟨hfirst, hrest⟩ := List.forall_mem_cons.mp h
      cases items with
      | nil =>
        rw [List.forall_mem_singleton]
        exact heq
      | cons second items =>
        rw [List.map_cons, List.map_cons, List.map_cons, List.map_cons, String.intercalate_cons_cons,
          String.intercalate_cons_cons, ← List.map_cons, ← List.map_cons, ← String.toList_inj] at heq
        simp only [String.toList_append, List.append_assoc] at heq
        have hboth : (f first).toList = (g first).toList ∧
            (",".intercalate ((second :: items).map f)).toList =
              (",".intercalate ((second :: items).map g)).toList := by
          rcases hfirst with hfirst | ⟨hf, hg⟩
          · rw [hfirst] at heq ⊢
            exact ⟨rfl, List.append_cancel_left (List.append_cancel_left heq)⟩
          · exact append_comma_inj hf hg heq
        rw [List.forall_mem_cons]
        exact ⟨String.toList_inj.mp hboth.1, ih hrest (String.toList_inj.mp hboth.2)⟩
  · intro hsame
    rw [List.map_congr_left hsame]

end Commas

namespace Value
variable {value : Value} {items : List Value} {name : String} {fields : List (String × Value)}

theorem second_plain (hname : '\'' ∉ name.toList) :
    (object ((name, value) :: fields)).plain.toList[1]? = some '\'' := by
  have hquote : Text.quoteFor name.toList = '\'' := if_neg fun h => hname h.1
  cases hfields : shownFields fields <;>
    simp [plain, shown, shownFields, Text.quoted, hquote, hfields, String.intercalate_cons_cons]

theorem second_write :
    (Json.write true (object ((name, value) :: fields)))[1]? = some '"' := by
  have hsorted : sortFields (Json.writeFields true ((name, value) :: fields)) ≠ [] := by
    intro hnil
    have hlength := congrArg List.length hnil
    simp [sortFields, Json.writeFields] at hlength
  rw [Json.write]
  simp only [if_true]
  cases hwritten : sortFields (Json.writeFields true ((name, value) :: fields)) with
  | nil => exact absurd hwritten hsorted
  | cons first rest =>
    cases rest <;> simp [Json.writeText, List.intercalate_cons_cons]

/-- The text that a criterion with a value is compared by is the one that a store keeps of it. -/
def Refound (value : Value) : Prop :=
  (coerceReference value).canonicalText? "reference" = value.canonicalText? "reference"

theorem refound_scalar_iff (h : value.isScalar = true) (hnull : value.isNull = false) :
    value.Refound ↔ value.writtenAlike = true := by
  have hmember : value.canonicalText? "reference" = some value.memberText := by
    cases value with
    | null => cases hnull
    | bool b => rfl
    | int n => rfl
    | real x => rfl
    | text s => rfl
    | _ => cases h
  have hlist : ∀ items, value ≠ list items := by
    rintro items rfl
    cases h
  rw [Refound, canonicalText?_coerceReference, hmember, Option.some.injEq, askedText_eq_plain hlist]
  exact plain_eq_memberText_iff h

theorem refound_list_iff (h : ∀ item ∈ items, item.isScalar = true) :
    (list items).Refound ↔ ∀ item ∈ items, item.writtenAlike = true := by
  have hcommas : ∀ item ∈ items, item.plain = item.memberText ∨
      ',' ∉ item.plain.toList ∧ ',' ∉ item.memberText.toList := by
    intro item hitem
    cases halike : item.writtenAlike with
    | true => exact .inl ((plain_eq_memberText_iff (h item hitem)).mpr halike)
    | false => exact .inr (comma_not_mem halike)
  rw [Refound, canonicalText?_coerceReference, canonicalText?_list, Option.some.injEq, askedText,
    intercalate_map_eq_iff hcommas]
  exact forall₂_congr fun item hitem => plain_eq_memberText_iff (h item hitem)

theorem not_refound_object (hname : '\'' ∉ name.toList) :
    ¬ (object ((name, value) :: fields)).Refound := by
  intro hsame
  rw [Refound, canonicalText?_coerceReference, askedText_eq_plain fun _ h => by cases h] at hsame
  have htext : (object ((name, value) :: fields)).canonicalText? "reference" =
      some (String.ofList (Json.write true (object ((name, value) :: fields)))) := rfl
  rw [htext, Option.some.injEq] at hsame
  have hsecond := @second_plain value name fields hname
  rw [hsame, String.toList_ofList, second_write] at hsecond
  exact absurd hsecond (by decide)

end Value

section Equality
variable {setting : Setting} {store : Store} {tableId rowId : Int} {schema : Schema}
  {contents : Contents} {c d : Criterion} {column : Column} {value : Value} {text : String}

theorem Resolved.equalTest?_of_reference {resolved : Resolved}
    (htype : resolved.column.type = "reference") (hvalue : resolved.value = coerceReference value)
    (htext : value.canonicalText? "reference" = some text) (hne : text ≠ "") :
    ∃ test, resolved.equalTest? = some test ∧ ∀ zone,
      (test.holds (.of zone "reference" value) = true ↔ value.Refound) := by
  have hfamily : resolved.family = .reference := by
    rw [Resolved.family, Column.family, htype]
    rfl
  refine ⟨.textIs value.askedText, ?_, ?_⟩
  · simp only [equalTest?, hfamily, hvalue, htype, Value.canonicalText?_coerceReference]
    rw [Option.filter_some, if_pos (by simpa using Value.askedText_ne_empty htext hne)]
    rfl
  · intro zone
    rw [Value.Refound, Value.canonicalText?_coerceReference, CellTest.holds, beq_iff_eq]
    exact eq_comm

/-- A row that holds a value is found by the equality with this value, and not by its opposite, if and only
if the two texts of the value agree.  The texts of scalars, and of lists of them, agree unless there is a
boolean or a double that is whole; those of objects differ if the first name has no apostrophe. -/
theorem Store.reference_equality_iff
    (keyed : ((store.columns.getD []).map (·.2.id)).Nodup)
    (hschema : store.schema tableId = .ok schema) (written : store.Written setting.zone contents)
    (hcolumn : schema.column? c.columnId = some column) (hsame : d.columnId = c.columnId)
    (htype : column.type = "reference") (hc : c.operator = Operator.name .equals)
    (hd : d.operator = Operator.name .notEquals) (hvalue : c.value = value) (hother : d.value = value)
    (hdepth : value.depth ≤ Json.maxDepth) (hshort : value.Short)
    (htext : value.canonicalText? "reference" = some text) (hne : text ≠ "")
    (hcell : contents rowId column.id = some value) :
    ∃ coerced first second equal unequal,
      coerce setting.zone "reference" value = .ok (.usable coerced) ∧
      c.resolve setting.zone schema = .ok (.resolved first) ∧
      d.resolve setting.zone schema = .ok (.resolved second) ∧
      Constraints.standard.condition? setting first = .ok (some equal) ∧
      Constraints.standard.condition? setting second = .ok (some unequal) ∧
      (equal.truth (store.cellsAt rowId) = some true ↔
        coerced.canonicalText? "reference" = some text) ∧
      (unequal.truth (store.cellsAt rowId) = some true ↔
        coerced.canonicalText? "reference" ≠ some text) ∧
      (value.isScalar = true →
        (coerced.canonicalText? "reference" = some text ↔ value.writtenAlike = true)) ∧
      (∀ items, value = .list items → (∀ item ∈ items, item.isScalar = true) →
        (coerced.canonicalText? "reference" = some text ↔
          ∀ item ∈ items, item.writtenAlike = true)) ∧
      ∀ name member fields, value = .object ((name, member) :: fields) → '\'' ∉ name.toList →
        coerced.canonicalText? "reference" ≠ some text := by
  have hnull : value.isNull = false := by
    cases value with
    | null => cases htext
    | _ => rfl
  have hobstacle : value.obstacle? false Json.maxDepth = none :=
    (Value.obstacle?_eq_none_iff false value Json.maxDepth).mpr ⟨hdepth, hshort⟩
  have hcoerce : coerce setting.zone "reference" value = .ok (.usable (coerceReference value)) := by
    rw [Value.coerce_reference hnull, hobstacle]
    rfl
  have hfamily : column.family = .reference := by
    rw [Column.family, htype]
    rfl
  have hfits : column.family ≠ .numeric ∧ column.family ≠ .date := by
    rw [hfamily]
    decide
  have hresolve := Criterion.resolve_of_coerce hcolumn hc (by rw [hfamily]; decide) rfl hfits
    (hvalue ▸ hnull) (by rw [htype, hvalue]; exact hcoerce)
  have hresolve' := Criterion.resolve_of_coerce (hsame ▸ hcolumn) hd (by rw [hfamily]; decide) rfl
    hfits (hother ▸ hnull) (by rw [htype, hother]; exact hcoerce)
  have hid : column.id = c.columnId := by simpa using List.find?_some hcolumn
  have hcolumnType : store.columnType column.id = column.type :=
    columnType_of_schema keyed hschema (hid ▸ hcolumn)
  let first : Resolved := ⟨c, column, .equals, coerceReference value, .null⟩
  obtain ⟨test, htest, hholds⟩ :=
    @Resolved.equalTest?_of_reference value text first htype rfl htext hne
  have hequal : Constraints.standard.condition? setting first =
      .ok (some (.someCell column.id test)) := by
    rw [Resolved.standard_condition?_equals rfl, Resolved.someCell?, htest]
    rfl
  have hunequal : Constraints.standard.condition? setting
      ⟨d, column, .notEquals, coerceReference value, .null⟩ = .ok (some (.noCell column.id test)) := by
    rw [Resolved.standard_condition?_notEquals rfl, Resolved.noCell?]
    exact congrArg (fun test => Except.ok (Option.map (Condition.noCell column.id) test)) htest
  have hrefound : (coerceReference value).canonicalText? "reference" = some text ↔ value.Refound := by
    rw [Value.Refound, htext]
  refine ⟨_, _, _, _, _, hcoerce, hresolve, hresolve', hequal, hunequal, ?_, ?_, ?_, ?_, ?_⟩
  · rw [written.someCell_truth_iff hcolumnType hcell, htype, hholds, hrefound]
  · rw [written.noCell_truth_iff hcolumnType hcell, htype, hholds, Ne, hrefound]
  · intro hscalar
    rw [hrefound]
    exact Value.refound_scalar_iff hscalar hnull
  · rintro items rfl hscalars
    rw [hrefound]
    exact Value.refound_list_iff hscalars
  · rintro name member fields rfl hname
    rw [Ne, hrefound]
    exact Value.not_refound_object hname

end Equality

namespace Store

/-- A table of links: a list of a text and a number, and a boolean. -/
def links : Store :=
  let table := (empty.addTable 7).addColumn 7 ⟨1, "link", "reference", 0, none⟩
  (table.insertRow .utc ⟨1, 7, ⟨0, Reading.zero_lt⟩⟩ [(1, .list [.text "a", .int 3])]).insertRow .utc
    ⟨2, 7, ⟨0, Reading.zero_lt⟩⟩ [(1, .bool true)]

theorem grown_links :
    Grown .utc links ((Contents.writeRow (fun _ _ => none) 1 [(1, .list [.text "a", .int 3])]).writeRow
      2 [(1, .bool true)]) := by
  refine .insertRow _ _ (.insertRow _ _ (.addColumn 7 _ (.addTable 7 .empty) ?_ ?_))
  all_goals simp [addTable, empty, emptyOf]

theorem reference_equality_iff_links :
    let setting : Setting := ⟨.utc, ⟨⟨0, Reading.zero_lt⟩, none⟩, ⟨true⟩⟩
    let schema : Schema := ⟨[⟨1, "link", "reference", 0, none⟩]⟩
    let value : Value := .list [.text "a", .int 3]
    let linked : Criterion := ⟨1, "equals", value, .null, none, none, by decide, by decide⟩
    let unlinked : Criterion := ⟨1, "not_equals", value, .null, none, none, by decide, by decide⟩
    ∃ first second equal unequal, linked.resolve setting.zone schema = .ok (.resolved first) ∧
      unlinked.resolve setting.zone schema = .ok (.resolved second) ∧
      Constraints.standard.condition? setting first = .ok (some equal) ∧
      Constraints.standard.condition? setting second = .ok (some unequal) ∧
      equal.truth (links.cellsAt 1) = some true ∧ unequal.truth (links.cellsAt 1) ≠ some true := by
  intro setting schema value linked unlinked
  have hschema : links.schema 7 = .ok schema := by cbv
  have hcolumn : schema.column? linked.columnId = some ⟨1, "link", "reference", 0, none⟩ := by cbv
  have htext : value.canonicalText? "reference" = some "a,3" := by cbv
  have hcell : Contents.writeRow (Contents.writeRow (fun _ _ => none) 1
      [(1, .list [.text "a", .int 3])]) 2 [(1, .bool true)] 1 1 = some value := by cbv
  have hdepth : value.depth ≤ Json.maxDepth := by decide
  have hthree : (Decimal.numeral 3).length ≤ 4300 := by decide
  have hshort : value.Short := ⟨trivial, hthree, trivial⟩
  obtain ⟨coerced, first, second, equal, unequal, -, hfirst, hsecond, hequal, hunequal, hfound, hmissed,
    -, hlist, -⟩ := @reference_equality_iff setting links 7 1 schema _ linked unlinked _ value "a,3"
      grown_links.keyed hschema grown_links.written hcolumn rfl rfl rfl rfl rfl rfl hdepth hshort htext
      (by decide) hcell
  have hscalars : ∀ item ∈ [Value.text "a", .int 3], item.isScalar = true := by simp [Value.isScalar]
  have hsame := (hlist _ rfl hscalars).mpr (by simp [Value.writtenAlike])
  refine ⟨first, second, equal, unequal, hfirst, hsecond, hequal, hunequal, hfound.mpr hsame, ?_⟩
  rw [Ne, hmissed, not_not]
  exact hsame

/-- The row that holds `true` is not found by the equality with `true`, but by its opposite. -/
theorem reference_equality_fails_links :
    let setting : Setting := ⟨.utc, ⟨⟨0, Reading.zero_lt⟩, none⟩, ⟨true⟩⟩
    let schema : Schema := ⟨[⟨1, "link", "reference", 0, none⟩]⟩
    let linked : Criterion := ⟨1, "equals", .bool true, .null, none, none, by decide, by decide⟩
    let unlinked : Criterion :=
      ⟨1, "not_equals", .bool true, .null, none, none, by decide, by decide⟩
    links.schema 7 = .ok schema ∧
      coerce .utc "reference" (.bool true) = .ok (.usable (.text "True")) ∧
      (Projections.of .utc "reference" (.bool true)).text = some "true" ∧
      ∃ first second,
        Predicate.ofCriteria .standard setting schema 7 [linked] "" = .ok first ∧
        Predicate.ofCriteria .standard setting schema 7 [unlinked] "" = .ok second ∧
        (links.matching first).map (·.id) = [] ∧ (links.matching second).map (·.id) = [1, 2] := by
  intro setting schema linked unlinked
  exact ⟨by cbv, by cbv, by cbv, _, _, by cbv, by cbv, by cbv, by cbv⟩

end Store

end GridQuery
