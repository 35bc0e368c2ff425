import GridQuery.Proofs.Json.Sorting
import GridQuery.Proofs.Place
import GridQuery.Proofs.Predicate
import GridQuery.Proofs.Store.ReferenceEquality

/-!
# Equality of structured values

A store keeps a structured value as its canonical text, and a criterion compares the canonical text of its own
value.  The two agree, except where the value is a text: a store keeps it as it is, while a criterion takes it
for JSON and asks for what it spells.
-/

namespace GridQuery

/-- The text that a criterion with a value asks for in a column, if it asks for anything. -/
def Value.sought? (value : Value) (zone : Zone) (type : String) : Option String :=
  ((value.coerced? zone type).bind (·.canonicalText? type)).filter (· ≠ "")

/-- A text is the canonical text of the JSON that it spells, if it spells any. -/
def ReadsBack (type text : String) : Prop :=
  ∀ value, Json.read Json.maxDepth text = .ok value → value.canonicalText? type = some text

namespace Json

theorem length_lt_of_quoted {units : List Nat} {text rest : List Char} (h : Quoted units text rest) :
    units.length + rest.length < text.length := by
  induction h with
  | close => simp
  | plain _ _ _ _ ih => simp only [List.length_cons]; omega
  | short _ _ ih => simp only [List.length_cons]; omega
  | hex _ _ ih => simp only [List.length_cons]; omega

theorem length_joinUnits_le {lone : Option Char} {units : List Nat} {chars : List Char}
    (h : joinUnits lone units = some chars) : chars.length ≤ units.length := by
  induction units using joinUnits.induct generalizing chars with
  | case1 high low rest hpair ih =>
    rw [joinUnits, if_pos hpair, Option.map_eq_some_iff] at h
    obtain ⟨tail, htail, rfl⟩ := h
    have := ih htail
    simp only [List.length_cons]
    omega
  | case2 high low rest hpair ih =>
    rw [joinUnits, if_neg hpair, Option.bind_eq_some_iff] at h
    obtain ⟨c, -, h⟩ := h
    obtain ⟨tail, htail, rfl⟩ := Option.map_eq_some_iff.mp h
    exact Nat.succ_le_succ (ih htail)
  | case3 unit =>
    obtain ⟨c, -, rfl⟩ := Option.map_eq_some_iff.mp h
    exact Nat.le_refl 1
  | case4 =>
    obtain rfl := Option.some.inj h
    exact Nat.le_refl 0

theorem length_lt_of_read {depth : Nat} {text inner : String} (h : read depth text = .ok (.text inner)) :
    inner.length < text.length := by
  obtain ⟨start, stop, space, denotes, -⟩ := read_eq_ok_iff.mp h
  have hstart := space.length_le
  cases denotes with
  | number number =>
    cases number with
    | positive number => cases number
    | negative number => cases number
  | text quotation =>
    obtain ⟨units, hunits, hinner⟩ := quotation
    have hquoted := length_lt_of_quoted hunits
    have hjoined := length_joinUnits_le hinner
    rw [List.length_cons, String.length_toList] at hstart
    rw [String.length_toList] at hjoined
    omega

theorem eq_int_of_read_toString {depth : Nat} {n : Int} {value : Value}
    (h : read depth (toString n) = .ok value) : value = .int n := by
  have hnumber := @number_toString (Decimal.numeral n.natAbs).length n (Nat.le_refl _) []
  rw [List.append_nil] at hnumber
  have hspells : SpellsWithin _ 0 (toString n) (.int n) :=
    ⟨_, [], spaces_refl _, .number hnumber, spaces_refl []⟩
  rw [read_eq_ok_iff, SpellsWithin, ← readWith_eq_ok_iff] at h
  rcases SpellsWith.finds hspells with hread | ⟨-, fault, hread, -⟩
  · rw [hread] at h
    cases h
    rfl
  · rw [hread] at h
    cases h

end Json

section Texts
variable {type text : String}

theorem readsBack_of_malformed (h : Json.read Json.maxDepth text = .error .malformed) : ReadsBack type text := by
  intro value hread
  rw [h] at hread
  cases hread

theorem readsBack_iff_of_read {value : Value} (h : Json.read Json.maxDepth text = .ok value) :
    ReadsBack type text ↔ value.canonicalText? type = some text := by
  constructor
  · intro hback
    exact hback value h
  · intro htext found hread
    rw [h] at hread
    cases hread
    exact htext

theorem not_readsBack_of_text {inner : String} (h : Json.read Json.maxDepth text = .ok (.text inner)) :
    ¬ ReadsBack type text := by
  rw [readsBack_iff_of_read h]
  intro hsame
  have hinner : inner = text := Option.some.inj hsame
  have hlength := Json.length_lt_of_read h
  rw [hinner] at hlength
  exact Nat.lt_irrefl _ hlength

theorem not_readsBack_of_whole {x : Double} {n : Int} (h : Json.read Json.maxDepth text = .ok (.real x))
    (hwhole : x.toInt? = some n) : ¬ ReadsBack type text := by
  rw [readsBack_iff_of_read h]
  intro hsame
  have htext : toString n = text := by
    have hkept : (Value.real x).canonicalText? type = some (toString n) := by
      show (Value.real x).scalarText? = some (toString n)
      rw [Value.scalarText?, hwhole]
      rfl
    exact Option.some.inj (hkept.symm.trans hsame)
  rw [← htext] at h
  cases Json.eq_int_of_read_toString h

end Texts

theorem Value.exists_canonicalText? {value : Value} {type : String} (htype : type ≠ "reference")
    (readable : value.IsReadable) (hnull : value.isNull = false) (htext : ∀ text, value ≠ .text text) :
    ∃ text, value.canonicalText? type = some text ∧ text ≠ "" := by
  have hcons : ∀ (c : Char) (chars : List Char), String.ofList (c :: chars) ≠ "" := by
    intro c chars
    rw [Ne, ← String.toList_inj, String.toList_ofList]
    exact List.cons_ne_nil c chars
  cases value with
  | null => cases hnull
  | bool b => exact ⟨_, rfl, by cases b <;> decide⟩
  | int n => exact ⟨_, rfl, toString_ne_empty n⟩
  | real x =>
    refine ⟨_, rfl, ?_⟩
    cases x.toInt? with
    | none => exact x.text_ne_empty
    | some n => exact toString_ne_empty n
  | text text => exact absurd rfl (htext text)
  | date _ => exact readable.elim
  | time _ => exact readable.elim
  | list items =>
    rw [canonicalText?, if_neg htype]
    refine ⟨_, rfl, ?_⟩
    rw [Json.write]
    exact hcons _ _
  | object fields =>
    refine ⟨_, rfl, ?_⟩
    rw [Json.write]
    exact hcons _ _

theorem Value.filter_canonicalText?_eq_none_iff {value : Value} {type : String} (htype : type ≠ "reference")
    (readable : value.IsReadable) :
    (value.canonicalText? type).filter (· ≠ "") = none ↔ value = .null ∨ value = .text "" := by
  cases hnull : value.isNull with
  | true =>
    obtain rfl := eq_null_of_isNull hnull
    exact iff_of_true rfl (.inl rfl)
  | false =>
    by_cases htext : ∃ text, value = .text text
    · obtain ⟨text, rfl⟩ := htext
      have hsome : (Value.text text).canonicalText? type = some text := rfl
      rw [hsome, Option.filter_eq_none_iff]
      simp
    · obtain ⟨text, hcanonical, hne⟩ :=
        exists_canonicalText? htype readable hnull fun text h => htext ⟨text, h⟩
      rw [hcanonical, Option.filter_some, if_pos (decide_eq_true hne)]
      refine iff_of_false nofun ?_
      rintro (rfl | h)
      · cases hnull
      · exact htext ⟨"", h⟩

section Criteria
variable {setting : Setting} {zone : Zone} {schema : Schema} {c : Criterion} {column : Column}
  {operator : Operator} {value : Value} {text : String}

theorem family_of_structured (h : isStructured column.type = true) :
    column.family = .reference ∨ column.family = .other := by
  rw [isStructured, Bool.or_eq_true, beq_iff_eq, beq_iff_eq] at h
  rcases h with h | h
  · right
    rw [Column.family, h]
    rfl
  · left
    rw [Column.family, h]
    rfl

theorem ne_reference_of_structured (h : isStructured column.type = true) : column.type ≠ "reference" := by
  intro hreference
  rw [hreference] at h
  cases h

theorem Resolved.equalTest?_of_structured {resolved : Resolved}
    (h : isStructured resolved.column.type = true) :
    resolved.equalTest? =
      ((resolved.value.canonicalText? resolved.column.type).filter (· ≠ "")).map .textIs := by
  unfold equalTest?
  rcases family_of_structured h with hfamily | hfamily
  · have hfamily : resolved.family = .reference := hfamily
    simp only [hfamily]
  · have hfamily : resolved.family = .other := hfamily
    simp only [hfamily]

theorem Criterion.resolved?_cases (hcolumn : schema.column? c.columnId = some column)
    (htype : isStructured column.type = true) (hname : c.operator = operator.name)
    (hoperator : operator = .equals ∨ operator = .notEquals) (hnull : c.value.isNull = false) :
    (∃ value, coerce zone column.type c.value = .ok (.usable value) ∧
        c.resolved? zone schema = some ⟨c, column, operator, value, .null⟩) ∨
      (∀ value, coerce zone column.type c.value ≠ .ok (.usable value)) ∧ c.resolved? zone schema = none := by
  have hfits : column.family ≠ .numeric ∧ column.family ≠ .date := by
    rcases family_of_structured htype with hfamily | hfamily <;> rw [hfamily] <;> exact ⟨nofun, nofun⟩
  have hfields : operator.fields = [.value] := by
    rcases hoperator with rfl | rfl <;> rfl
  have hknown : operator ∈ column.family.operators := by
    rcases hoperator with rfl | rfl <;>
      rcases family_of_structured htype with hfamily | hfamily <;> rw [hfamily] <;> decide
  by_cases husable : ∃ value, coerce zone column.type c.value = .ok (.usable value)
  · obtain ⟨value, hvalue⟩ := husable
    refine .inl ⟨value, hvalue, ?_⟩
    exact resolved?_eq_some_iff.mpr (resolve_of_coerce hcolumn hname hknown hfields hfits hnull hvalue)
  · refine .inr ⟨fun value h => husable ⟨value, h⟩, ?_⟩
    rw [Option.eq_none_iff_forall_ne_some]
    intro resolved hresolved
    have hresolve := resolved?_eq_some_iff.mp hresolved
    obtain ⟨hcolumn', hoperator', -⟩ := resolve_eq_resolved hresolve
    obtain rfl : column = resolved.column := Option.some.inj (hcolumn.symm.trans hcolumn')
    have hsame : resolved.operator = operator := by
      have hfound := (operatorFor?_eq_some_iff.mp hoperator').1
      rw [hname, Operator.ofName?_name, Option.some.injEq] at hfound
      exact hfound.symm
    have hfield : ValueField.value ∈ resolved.operator.fields := by
      rw [hsame, hfields]
      exact List.mem_cons_self
    exact husable ⟨_, (coerced_of_resolve hresolve hfield).2⟩

theorem Value.sought?_of_usable {asked : Value} (h : coerce zone column.type value = .ok (.usable asked)) :
    value.sought? zone column.type = (asked.canonicalText? column.type).filter (· ≠ "") := by
  unfold sought? coerced?
  rw [h]
  cases asked <;> rfl

theorem Value.sought?_of_unusable (h : ∀ asked, coerce zone column.type value ≠ .ok (.usable asked)) :
    value.sought? zone column.type = none := by
  unfold sought? coerced?
  cases hcoerce : coerce zone column.type value with
  | error deep => rfl
  | ok outcome =>
    cases outcome with
    | usable asked => exact absurd hcoerce (h asked)
    | refused fault => rfl

theorem Value.sought?_of_not_text (htype : isStructured column.type = true) (readable : value.IsReadable)
    (hnull : value.isNull = false) (htext : ∀ text, value ≠ .text text) :
    value.sought? zone column.type = value.canonicalText? column.type := by
  obtain ⟨text, hcanonical, hne⟩ :=
    exists_canonicalText? (ne_reference_of_structured htype) readable hnull htext
  have hcoerce : coerce zone column.type value = .ok (.usable value) := by
    rw [coerce_of_structured htype hnull]
    cases value with
    | text text => exact absurd rfl (htext text)
    | _ => rfl
  rw [sought?_of_usable hcoerce, hcanonical, Option.filter_some, if_pos (decide_eq_true hne)]

theorem Value.sought?_text_of_read (htype : isStructured column.type = true)
    (hread : Json.read Json.maxDepth text = .ok value) :
    (Value.text text).sought? zone column.type = (value.canonicalText? column.type).filter (· ≠ "") := by
  apply sought?_of_usable
  rw [coerce_of_structured htype rfl, coerceStructured, hread]

theorem Value.sought?_text_of_malformed (htype : isStructured column.type = true)
    (hread : Json.read Json.maxDepth text = .error .malformed) :
    (Value.text text).sought? zone column.type = (some text).filter (· ≠ "") := by
  apply @sought?_of_usable _ _ _ (.text text)
  rw [coerce_of_structured htype rfl, coerceStructured, hread]

theorem Value.sought?_text_of_limit (htype : isStructured column.type = true) {fault : Json.ReadError}
    (hread : Json.read Json.maxDepth text = .error fault) (hfault : fault ≠ .malformed) :
    (Value.text text).sought? zone column.type = none := by
  apply sought?_of_unusable
  intro asked hcoerce
  rw [coerce_of_structured htype rfl, coerceStructured, hread] at hcoerce
  cases fault with
  | malformed => exact hfault rfl
  | longNumber digits => cases hcoerce
  | tooDeep array => cases hcoerce
  | unpaired => cases hcoerce

theorem Value.sought?_eq_self_iff (htype : isStructured column.type = true) {asked : String}
    (h : (Value.text text).sought? zone column.type = some asked) :
    asked = text ↔ ReadsBack column.type text := by
  cases hread : Json.read Json.maxDepth text with
  | ok value =>
    rw [sought?_text_of_read htype hread, Option.filter_eq_some_iff] at h
    rw [readsBack_iff_of_read hread, h.1, Option.some.injEq]
  | error fault =>
    by_cases hfault : fault = .malformed
    · subst hfault
      rw [sought?_text_of_malformed htype hread, Option.filter_eq_some_iff] at h
      exact iff_of_true (Option.some.inj h.1).symm (readsBack_of_malformed hread)
    · rw [sought?_text_of_limit htype hread hfault] at h
      cases h

theorem Value.sought?_text_eq_none_iff (htype : isStructured column.type = true)
    (hpaired : Json.read Json.maxDepth text ≠ .error .unpaired) :
    (Value.text text).sought? zone column.type = none ↔
      text = "" ∨ Json.read Json.maxDepth text = .ok .null ∨ Json.read Json.maxDepth text = .ok (.text "") ∨
        ∃ fault, Json.read Json.maxDepth text = .error fault ∧ fault.IsLimit := by
  have hempty : Json.read Json.maxDepth "" = .error .malformed := rfl
  cases hread : Json.read Json.maxDepth text with
  | ok spelled =>
    have hne : text ≠ "" := by
      rintro rfl
      cases hempty.symm.trans hread
    rw [sought?_text_of_read htype hread, filter_canonicalText?_eq_none_iff
      (ne_reference_of_structured htype) (Json.legible_of_read hread).readable]
    simp [hne]
  | error fault =>
    cases fault with
    | malformed =>
      rw [sought?_text_of_malformed htype hread]
      simp [Json.ReadError.IsLimit]
    | unpaired => exact absurd hread hpaired
    | longNumber _ | tooDeep _ =>
      rw [sought?_text_of_limit htype hread (by simp)]
      exact iff_of_true rfl (.inr (.inr (.inr ⟨_, rfl, trivial⟩)))

section Conditions
variable (hcolumn : schema.column? c.columnId = some column) (htype : isStructured column.type = true)
  (hnull : c.value.isNull = false)
include hcolumn htype hnull

theorem Criterion.condition?_eq_map {wrap : CellTest → Condition} (hname : c.operator = operator.name)
    (hoperator : operator = .equals ∨ operator = .notEquals)
    (hcompiled : ∀ value, Constraints.standard.compiled? setting ⟨c, column, operator, value, .null⟩ =
      (Resolved.equalTest? ⟨c, column, operator, value, .null⟩).map wrap) :
    c.condition? .standard setting schema =
      (c.value.sought? setting.zone column.type).map fun text => wrap (.textIs text) := by
  unfold condition?
  rcases @resolved?_cases setting.zone schema c column operator hcolumn htype hname hoperator hnull with
    ⟨asked, hasked, hresolved⟩ | ⟨hunusable, hresolved⟩
  · rw [hresolved, Value.sought?_of_usable hasked, Option.bind_some, hcompiled,
      Resolved.equalTest?_of_structured htype, Option.map_map]
    rfl
  · rw [hresolved, Value.sought?_of_unusable hunusable]
    rfl

theorem Criterion.condition?_equals (hname : c.operator = Operator.name .equals) :
    c.condition? .standard setting schema =
      (c.value.sought? setting.zone column.type).map fun text => .someCell column.id (.textIs text) := by
  apply condition?_eq_map hcolumn htype hnull hname (.inl rfl)
  intro value
  rw [Constraints.compiled?, Resolved.standard_condition?_equals rfl]
  rfl

theorem Criterion.condition?_notEquals (hname : c.operator = Operator.name .notEquals) :
    c.condition? .standard setting schema =
      (c.value.sought? setting.zone column.type).map fun text => .noCell column.id (.textIs text) := by
  apply condition?_eq_map hcolumn htype hnull hname (.inr rfl)
  intro value
  rw [Constraints.compiled?, Resolved.standard_condition?_notEquals rfl]
  rfl

end Conditions

end Criteria

section Equality
variable {setting : Setting} {store : Store} {tableId rowId : Int} {schema : Schema}
  {contents : Contents} {c d : Criterion} {column : Column} {value : Value} {asked text : String}

section Truth
variable (written : store.Written setting.zone contents)
  (hcolumnType : store.columnType column.id = column.type) (hcell : contents rowId column.id = some value)
  (htext : value.canonicalText? column.type = some text)
include written hcolumnType hcell htext

theorem Store.someCell_textIs_iff :
    (Condition.someCell column.id (.textIs asked)).truth (store.cellsAt rowId) = some true ↔ asked = text := by
  have hkept : (Projections.of setting.zone column.type value).text = some text := htext
  rw [written.someCell_truth_iff hcolumnType hcell, CellTest.holds, beq_iff_eq, hkept, Option.some.injEq]
  exact eq_comm

theorem Store.noCell_textIs_iff :
    (Condition.noCell column.id (.textIs asked)).truth (store.cellsAt rowId) = some true ↔ asked ≠ text := by
  have hkept : (Projections.of setting.zone column.type value).text = some text := htext
  rw [written.noCell_truth_iff hcolumnType hcell, CellTest.holds, beq_iff_eq, hkept, Option.some.injEq]
  exact not_congr eq_comm

end Truth

/-- A row that holds a value of JSON is found by the equality with this value and not by its opposite, be the
value no text, or a text that reads back.  A text that does not is missed by the equality and found by the
opposite: one with quotes around it, and one that spells a whole double.  A text with halves of surrogate pairs
stops coercion.  For a list or an object, the equality with its canonical text finds the row too. -/
theorem Store.structured_equality_iff
    (keyed : ((store.columns.getD []).map (·.2.id)).Nodup)
    (hschema : store.schema tableId = .ok schema) (written : store.Written setting.zone contents)
    (hcolumn : schema.column? c.columnId = some column) (hsame : d.columnId = c.columnId)
    (htype : isStructured column.type = true) (hc : c.operator = Operator.name .equals)
    (hd : d.operator = Operator.name .notEquals) (hvalue : c.value = value) (hother : d.value = value)
    (hlegible : value.Legible Json.maxDepth) (hnull : value.isNull = false)
    (hcell : contents rowId column.id = some value) :
    ((∀ text, value ≠ .text text) → ∃ equal unequal,
      c.condition? .standard setting schema = some equal ∧
      d.condition? .standard setting schema = some unequal ∧
      equal.truth (store.cellsAt rowId) = some true ∧ unequal.truth (store.cellsAt rowId) ≠ some true) ∧
    (∀ text, value = .text text → Json.SpellsHalves 4300 Json.maxDepth text →
      coerce setting.zone column.type value = .error .unpaired) ∧
    (∀ text, value = .text text → ¬ Json.SpellsHalves 4300 Json.maxDepth text →
      (c.condition? .standard setting schema = none ↔
        text = "" ∨ Json.read Json.maxDepth text = .ok .null ∨ Json.read Json.maxDepth text = .ok (.text "") ∨
          ∃ fault, Json.read Json.maxDepth text = .error fault ∧ fault.IsLimit) ∧
      (∀ equal, c.condition? .standard setting schema = some equal → ∃ unequal,
        d.condition? .standard setting schema = some unequal ∧
        (equal.truth (store.cellsAt rowId) = some true ↔ ReadsBack column.type text) ∧
        (unequal.truth (store.cellsAt rowId) = some true ↔ ¬ ReadsBack column.type text)) ∧
      (∀ inner, Json.read Json.maxDepth text = .ok (.text inner) → ¬ ReadsBack column.type text) ∧
      ∀ x n, Json.read Json.maxDepth text = .ok (.real x) → x.toInt? = some n → ¬ ReadsBack column.type text) ∧
    ((∃ items, value = .list items) ∨ (∃ fields, value = .object fields) → ∀ (e : Criterion) text,
      e.columnId = c.columnId → e.operator = Operator.name .equals →
      value.canonicalText? column.type = some text → e.value = .text text →
      ∃ equal, e.condition? .standard setting schema = some equal ∧
        equal.truth (store.cellsAt rowId) = some true) := by
  have hid : column.id = c.columnId := by simpa using List.find?_some hcolumn
  have hcolumnType : store.columnType column.id = column.type :=
    columnType_of_schema keyed hschema (hid ▸ hcolumn)
  have htypeName : column.type ≠ "reference" := ne_reference_of_structured htype
  have hequal := @Criterion.condition?_equals setting schema c column hcolumn htype (hvalue ▸ hnull) hc
  have hunequal := @Criterion.condition?_notEquals setting schema d column (hsame ▸ hcolumn) htype
    (hother ▸ hnull) hd
  rw [hvalue] at hequal
  rw [hother] at hunequal
  refine ⟨?_, ?_, ?_, ?_⟩
  · intro hnotText
    obtain ⟨text, htext, -⟩ := Value.exists_canonicalText? htypeName hlegible.readable hnull hnotText
    rw [Value.sought?_of_not_text htype hlegible.readable hnull hnotText, htext] at hequal hunequal
    refine ⟨_, _, hequal, hunequal, ?_, ?_⟩
    · exact (someCell_textIs_iff written hcolumnType hcell htext).mpr rfl
    · exact fun h => (noCell_textIs_iff written hcolumnType hcell htext).mp h rfl
  · rintro text rfl hhalves
    rw [Value.coerce_of_structured htype rfl, coerceStructured, Json.read_eq_unpaired_iff.mpr hhalves]
  · rintro text rfl hhalves
    refine ⟨?_, ?_, fun _ => not_readsBack_of_text, fun _ _ => not_readsBack_of_whole⟩
    · rw [hequal, Option.map_eq_none_iff]
      exact Value.sought?_text_eq_none_iff htype (mt Json.read_eq_unpaired_iff.mp hhalves)
    · intro equal h
      rw [hequal, Option.map_eq_some_iff] at h
      obtain ⟨asked, hasked, rfl⟩ := h
      rw [hasked] at hunequal
      rw [← Value.sought?_eq_self_iff htype hasked]
      refine ⟨_, hunequal, ?_, ?_⟩
      · exact someCell_textIs_iff written hcolumnType hcell rfl
      · exact noCell_textIs_iff written hcolumnType hcell rfl
  · intro hnested e text he hoperator htext hrendered
    obtain ⟨spelled, hread, hspelled⟩ := Value.read_canonicalText? htypeName hlegible hnested htext
    have hnotText : ∀ text, value ≠ .text text := by
      rintro _ rfl
      rcases hnested with ⟨_, h⟩ | ⟨_, h⟩ <;> cases h
    obtain ⟨_, hcanonical, hne⟩ := Value.exists_canonicalText? htypeName hlegible.readable hnull hnotText
    obtain rfl := Option.some.inj (htext.symm.trans hcanonical)
    have hfound := @Criterion.condition?_equals setting schema e column (he ▸ hcolumn) htype
      (by rw [hrendered]; rfl) hoperator
    rw [hrendered, Value.sought?_text_of_read htype hread, hspelled, Option.filter_some,
      if_pos (decide_eq_true hne)] at hfound
    exact ⟨_, hfound, (someCell_textIs_iff written hcolumnType hcell htext).mpr rfl⟩

end Equality

namespace Store

/-- A table of documents: a list of two numbers, and a text that spells the same list. -/
def documents : Store :=
  let table := (empty.addTable 7).addColumn 7 ⟨1, "document", "json", 0, none⟩
  (table.insertRow .utc ⟨1, 7, ⟨0, Reading.zero_lt⟩⟩ [(1, .list [.int 1, .int 2])]).insertRow .utc
    ⟨2, 7, ⟨0, Reading.zero_lt⟩⟩ [(1, .text "[1,2]")]

theorem grown_documents :
    Grown .utc documents ((Contents.writeRow (fun _ _ => none) 1 [(1, .list [.int 1, .int 2])]).writeRow
      2 [(1, .text "[1,2]")]) := by
  refine .insertRow _ _ (.insertRow _ _ (.addColumn 7 _ (.addTable 7 .empty) ?_ ?_))
  all_goals simp [addTable, empty, emptyOf]

theorem structured_equality_iff_documents :
    let setting : Setting := ⟨.utc, ⟨⟨0, Reading.zero_lt⟩, none⟩, ⟨true⟩⟩
    let schema : Schema := ⟨[⟨1, "document", "json", 0, none⟩]⟩
    let value : Value := .list [.int 1, .int 2]
    let same : Criterion := ⟨1, "equals", value, .null, none, none, by decide, by decide⟩
    let other : Criterion := ⟨1, "not_equals", value, .null, none, none, by decide, by decide⟩
    ∃ equal unequal, same.condition? .standard setting schema = some equal ∧
      other.condition? .standard setting schema = some unequal ∧
      equal.truth (documents.cellsAt 1) = some true ∧ unequal.truth (documents.cellsAt 1) ≠ some true := by
  intro setting schema value same other
  have hschema : documents.schema 7 = .ok schema := by cbv
  have hcolumn : schema.column? same.columnId = some ⟨1, "document", "json", 0, none⟩ := by cbv
  have hcell : Contents.writeRow (Contents.writeRow (fun _ _ => none) 1
      [(1, .list [.int 1, .int 2])]) 2 [(1, .text "[1,2]")] 1 1 = some value := by cbv
  have hone : (Decimal.numeral 1).length ≤ 4300 := by decide
  have htwo : (Decimal.numeral 2).length ≤ 4300 := by decide
  have hshort : value.Short := ⟨hone, htwo, trivial⟩
  have hlegible : value.Legible Json.maxDepth := ⟨⟨trivial, trivial, trivial⟩, hshort, by decide⟩
  obtain ⟨hfound, -, -, -⟩ := @structured_equality_iff setting documents 7 1 schema _ same other _ value
    grown_documents.keyed hschema grown_documents.written hcolumn rfl rfl rfl rfl rfl rfl hlegible rfl hcell
  have hnotText : ∀ text, Value.list [.int 1, .int 2] ≠ .text text := by
    intro text h
    cases h
  exact hfound hnotText

/-- The row that holds the text is not found by the equality with this text, but by its opposite; the row that
holds the list is found. -/
theorem structured_equality_fails_documents :
    let setting : Setting := ⟨.utc, ⟨⟨0, Reading.zero_lt⟩, none⟩, ⟨true⟩⟩
    let schema : Schema := ⟨[⟨1, "document", "json", 0, none⟩]⟩
    let same : Criterion := ⟨1, "equals", .text "[1,2]", .null, none, none, by decide, by decide⟩
    let other : Criterion := ⟨1, "not_equals", .text "[1,2]", .null, none, none, by decide, by decide⟩
    documents.schema 7 = .ok schema ∧
      (Projections.of .utc "json" (.text "[1,2]")).text = some "[1,2]" ∧
      coerce .utc "json" (.text "[1,2]") = .ok (.usable (.list [.int 1, .int 2])) ∧
      (Value.list [.int 1, .int 2]).canonicalText? "json" = some "[1, 2]" ∧
      ∃ first second,
        Predicate.ofCriteria .standard setting schema 7 [same] "" = .ok first ∧
        Predicate.ofCriteria .standard setting schema 7 [other] "" = .ok second ∧
        (documents.matching first).map (·.id) = [1] ∧ (documents.matching second).map (·.id) = [2] := by
  intro setting schema same other
  exact ⟨by cbv, by cbv, by cbv, by cbv, _, _, by cbv, by cbv, by cbv, by cbv⟩

end Store

end GridQuery
