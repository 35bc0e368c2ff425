import GridQuery.Proofs.Json.Reading
import GridQuery.Proofs.Obstacle
import GridQuery.Proofs.Resolution

/-!
# What coercion answers

Each kind of type coerces in its own way, and all of them answer, with a usable value or a refusal, unless
there is an impasse.  `Stops` says where there is one: brackets nest too deep in JSON that is read, in a value
that is written out as text, or in one that a message or a reference shows, or JSON that is read spells
halves of surrogate pairs.  Resolution answers exactly where the coercion of the first value answers.
-/

namespace GridQuery

/-- The kinds of types, by how their values are coerced. -/
inductive TypeKind (type : String) : Prop
  | numeric (h : Family.ofType type = .numeric)
  | date (h : Family.ofType type = .date)
  | boolean (h : type = "boolean")
  | structured (h : isStructured type = true)
  | reference (h : type = "reference")
  | plain (h : Family.ofType type = .text ∨ Family.ofType type = .other)
      (unstructured : isStructured type = false)

theorem typeKind (type : String) : TypeKind type := by
  cases hstructured : isStructured type with
  | true => exact .structured hstructured
  | false =>
    cases hfamily : Family.ofType type with
    | text => exact .plain (.inl hfamily) hstructured
    | numeric => exact .numeric hfamily
    | date => exact .date hfamily
    | other => exact .plain (.inr hfamily) hstructured
    | boolean =>
      unfold Family.ofType at hfamily
      split at hfamily
      case h_8 => exact .boolean rfl
      all_goals cases hfamily
    | reference =>
      unfold Family.ofType at hfamily
      split at hfamily
      case h_11 => exact .reference rfl
      case h_12 => cases hstructured
      all_goals cases hfamily

theorem Family.isStructured_of_text {type : String} (h : Family.ofType type = .text) :
    isStructured type = false := by
  unfold ofType at h
  split at h
  case h_1 | h_2 | h_3 | h_4 => rfl
  all_goals cases h

theorem Family.of_range {family : Family} : ∀ operator ∈ family.operators,
    operator.fields = [.value, .secondValue] → family = .numeric ∨ family = .date := by
  cases family <;> decide

theorem calendarResult_eq_ok_iff {α : Type} {answer : Except CalendarFault α} {a : α} :
    calendarResult answer = .ok a ↔ answer = .ok a := by
  cases answer <;> simp [calendarResult]

namespace Coerced
variable {answer : Coerced} {obstacle : Option Obstacle} {impasse other : Impasse} {value : Value}

theorem ofExcept_eq_usable_iff {α : Type} {wrap : α → Value} {result : Except CoercionFault α} :
    ofExcept wrap result = usable value ↔ ∃ a, result = .ok a ∧ value = wrap a := by
  cases result <;> simp [ofExcept, eq_comm]

theorem past_eq_usable_iff :
    answer.past obstacle impasse = .ok (usable value) ↔ answer = usable value ∧ obstacle = none := by
  cases obstacle with
  | none => simp [past]
  | some obstacle => cases obstacle <;> simp [past]

theorem past_eq_error_iff :
    answer.past obstacle impasse = .error other ↔ obstacle = some .tooDeep ∧ impasse = other := by
  cases obstacle with
  | none => simp [past]
  | some obstacle => cases obstacle <;> simp [past]

end Coerced

theorem coerceBoolean_eq_usable_iff {value coerced : Value} :
    coerceBoolean value = .ok (.usable coerced) ↔ ∃ flag, value.toBoolean = .ok flag ∧
      coerced = .bool flag := by
  unfold coerceBoolean
  cases value.toBoolean with
  | ok flag => simp [eq_comm]
  | error fault => simp [Coerced.past_eq_usable_iff]

theorem coerceBoolean_eq_error_iff {value : Value} {impasse : Impasse} :
    coerceBoolean value = .error impasse ↔
      value.obstacle? false Json.maxDepth = some .tooDeep ∧ .showing = impasse := by
  unfold coerceBoolean
  cases hflag : value.toBoolean with
  | error fault => exact Coerced.past_eq_error_iff
  | ok flag =>
    refine iff_of_false (by simp) fun h => ?_
    have hdepth := Value.lt_depth_of_tooDeep h.1
    cases value with
    | list items => cases hflag
    | object fields => cases hflag
    | _ => exact absurd hdepth (Nat.not_lt_zero _)

theorem coerceStructured_eq_error_iff {value : Value} {impasse : Impasse} :
    coerceStructured value = .error impasse ↔ ∃ s, value = .text s ∧
      ((∃ array, Json.read Json.maxDepth s = .error (.tooDeep array) ∧ .reading array = impasse) ∨
        Json.read Json.maxDepth s = .error .unpaired ∧ .unpaired = impasse) := by
  cases value with
  | text s =>
    simp only [coerceStructured]
    constructor
    · intro h
      split at h <;> cases h
      · exact ⟨s, rfl, .inl ⟨_, ‹_›, rfl⟩⟩
      · exact ⟨s, rfl, .inr ⟨‹_›, rfl⟩⟩
    · rintro ⟨_, ⟨⟩, ⟨array, hread, rfl⟩ | ⟨hread, rfl⟩⟩ <;> rw [hread]
  | _ => simp [coerceStructured]

namespace Value
variable {zone : Zone} {type : String} {value : Value} {impasse : Impasse}

theorem coerce_of_numeric (h : Family.ofType type = .numeric) (hnull : value.isNull = false) :
    coerce zone type value = .ok (.ofExcept .real value.toNumber) := by
  cases value with
  | null => cases hnull
  | _ => simp only [coerce, h]

theorem coerce_of_boolean (h : Family.ofType type = .boolean) (hnull : value.isNull = false) :
    coerce zone type value = coerceBoolean value := by
  cases value with
  | null => cases hnull
  | _ => simp only [coerce, h]

theorem coerce_of_date (h : Family.ofType type = .date) (hnull : value.isNull = false) :
    coerce zone type value =
      .ok (.ofExcept (fun t => .time t.toTimestamp) (value.toInstant zone)) := by
  cases value with
  | null => cases hnull
  | _ => simp only [coerce, h]

theorem coerce_of_structured (h : isStructured type = true) (hnull : value.isNull = false) :
    coerce zone type value = coerceStructured value := by
  have htype : type = "json" ∨ type = "customArray" := by simpa [isStructured] using h
  rcases htype with rfl | rfl <;> cases value with
  | null => cases hnull
  | _ => rfl

theorem coerce_reference (hnull : value.isNull = false) :
    coerce zone "reference" value = Coerced.past (.usable (coerceReference value))
      (value.obstacle? false Json.maxDepth) .showing := by
  cases value with
  | null => cases hnull
  | _ => rfl

theorem coerce_of_plain (h : Family.ofType type = .text ∨ Family.ofType type = .other)
    (unstructured : isStructured type = false) (hnull : value.isNull = false) :
    coerce zone type value =
      Coerced.past (.usable (coerceText value)) value.textObstacle? .writing := by
  have hreference : type ≠ "reference" := by
    rintro rfl
    rcases h with h | h <;> cases h
  cases value with
  | null => cases hnull
  | _ => rcases h with h | h <;>
      simp only [coerce, h, unstructured, hreference, Bool.false_eq_true, if_false]

/-- A value is in the way of its own coercion. -/
inductive Stops (type : String) : Value → Impasse → Prop
  | reading {s : String} {array : Bool} (structured : isStructured type = true)
      (h : Json.read Json.maxDepth s = .error (.tooDeep array)) : Stops type (.text s) (.reading array)
  | writing {value : Value} (plain : Family.ofType type = .text ∨ Family.ofType type = .other)
      (unstructured : isStructured type = false) (h : value.textObstacle? = some .tooDeep) :
      Stops type value .writing
  | showing {value : Value} (shown : type = "boolean" ∨ type = "reference")
      (h : value.obstacle? false Json.maxDepth = some .tooDeep) : Stops type value .showing
  | unpaired {s : String} (structured : isStructured type = true)
      (h : Json.SpellsHalves 4300 Json.maxDepth s) : Stops type (.text s) .unpaired

theorem lt_depth_of_textObstacle? (h : value.textObstacle? = some .tooDeep) :
    Json.maxDepth < value.depth := by
  unfold textObstacle? at h
  split at h <;> exact lt_depth_of_tooDeep h

/-- How many brackets a value can have inside one another: those that a text opens, in all, and those that
nest in any other value. -/
def nesting : Value → Nat
  | text s => Json.opens s.toList
  | value => value.depth

theorem depth_le_nesting (value : Value) : value.depth ≤ value.nesting := by
  cases value with
  | text s => exact Nat.zero_le _
  | _ => exact Nat.le_refl _

theorem Stops.lt_nesting (h : value.Stops type impasse) (hdeep : impasse ≠ .unpaired) :
    Json.maxDepth < value.nesting := by
  cases h with
  | reading structured h => exact Json.lt_opens h
  | writing plain unstructured h =>
    exact Nat.lt_of_lt_of_le (lt_depth_of_textObstacle? h) value.depth_le_nesting
  | showing shown h => exact Nat.lt_of_lt_of_le (lt_depth_of_tooDeep h) value.depth_le_nesting
  | unpaired => exact absurd rfl hdeep

theorem Stops.isNull (h : value.Stops type impasse) : value.isNull = false := by
  by_cases hdeep : impasse = .unpaired
  · subst hdeep
    cases h
    rfl
  · have hlt := h.lt_nesting hdeep
    cases value with
    | null => exact absurd hlt (Nat.not_lt_zero _)
    | _ => rfl

theorem coerce_eq_error_iff (zone : Zone) :
    coerce zone type value = .error impasse ↔ value.Stops type impasse := by
  constructor
  · intro h
    have hnull : value.isNull = false := by
      cases value with
      | null => cases h
      | _ => rfl
    cases typeKind type with
    | numeric hkind =>
      rw [coerce_of_numeric hkind hnull] at h
      cases h
    | date hkind =>
      rw [coerce_of_date hkind hnull] at h
      cases h
    | boolean hkind =>
      rw [coerce_of_boolean (hkind ▸ rfl) hnull, coerceBoolean_eq_error_iff] at h
      obtain ⟨hobstacle, rfl⟩ := h
      exact .showing (.inl hkind) hobstacle
    | structured hkind =>
      rw [coerce_of_structured hkind hnull, coerceStructured_eq_error_iff] at h
      obtain ⟨s, rfl, ⟨array, hread, rfl⟩ | ⟨hread, rfl⟩⟩ := h
      · exact .reading hkind hread
      · exact .unpaired hkind (Json.read_eq_unpaired_iff.mp hread)
    | reference hkind =>
      rw [hkind, coerce_reference hnull, Coerced.past_eq_error_iff] at h
      obtain ⟨hobstacle, rfl⟩ := h
      exact .showing (.inr hkind) hobstacle
    | plain hkind unstructured =>
      rw [coerce_of_plain hkind unstructured hnull, Coerced.past_eq_error_iff] at h
      obtain ⟨hobstacle, rfl⟩ := h
      exact .writing hkind unstructured hobstacle
  · intro h
    have hnull := h.isNull
    cases h with
    | reading structured hread =>
      rw [coerce_of_structured structured hnull, coerceStructured_eq_error_iff]
      exact ⟨_, rfl, .inl ⟨_, hread, rfl⟩⟩
    | unpaired structured halves =>
      rw [coerce_of_structured structured hnull, coerceStructured_eq_error_iff]
      exact ⟨_, rfl, .inr ⟨Json.read_eq_unpaired_iff.mpr halves, rfl⟩⟩
    | writing plain unstructured hobstacle =>
      rw [coerce_of_plain plain unstructured hnull, Coerced.past_eq_error_iff]
      exact ⟨hobstacle, rfl⟩
    | showing shown hobstacle =>
      rcases shown with rfl | rfl
      · rw [coerce_of_boolean rfl hnull, coerceBoolean_eq_error_iff]
        exact ⟨hobstacle, rfl⟩
      · rw [coerce_reference hnull, Coerced.past_eq_error_iff]
        exact ⟨hobstacle, rfl⟩

theorem coerce_isOk_iff :
    (∃ answer, coerce zone type value = .ok answer) ↔ ¬ ∃ impasse, value.Stops type impasse := by
  simp only [← coerce_eq_error_iff zone]
  cases coerce zone type value <;> simp

theorem not_stops (h : Family.ofType type = .numeric ∨ Family.ofType type = .date) :
    ¬ value.Stops type impasse := by
  intro hstops
  have hnull := hstops.isNull
  rw [← coerce_eq_error_iff .utc] at hstops
  rcases h with h | h
  · rw [coerce_of_numeric h hnull] at hstops
    cases hstops
  · rw [coerce_of_date h hnull] at hstops
    cases hstops

end Value

namespace Criterion
variable {zone : Zone} {schema : Schema} {criterion : Criterion} {impasse : Impasse}

/-- A criterion fits a column and has to be compared with a value that stops coercion there. -/
def Stops (zone : Zone) (schema : Schema) (criterion : Criterion) (impasse : Impasse) : Prop :=
  ∃ column operator, schema.column? criterion.columnId = some column ∧
    operatorFor? criterion column = some operator ∧ criterion.unfit zone schema = [] ∧
    .value ∈ operator.fields ∧ criterion.value.Stops column.type impasse

theorem coerceFields_isOk {type : String} (fields : List ValueField)
    (h : ∀ field ∈ fields, ∃ answer, coerce zone type (field.of criterion) = .ok answer) :
    ∃ outcome, coerceFields zone type criterion fields = .ok outcome := by
  induction fields with
  | nil => exact ⟨_, rfl⟩
  | cons field fields ih =>
    obtain ⟨⟨answer, hanswer⟩, hrest⟩ := List.forall_mem_cons.mp h
    obtain ⟨outcome, houtcome⟩ := ih hrest
    rw [coerceFields, hanswer]
    cases answer with
    | refused fault => exact ⟨_, rfl⟩
    | usable value =>
      simp only [houtcome]
      exact ⟨_, rfl⟩

/-- Only the first value of a criterion can stop coercion: ranges are of numbers or dates. -/
theorem coerceFields_eq_error_iff (zone : Zone) {column : Column} {operator : Operator}
    (h : operator ∈ column.family.operators) :
    coerceFields zone column.type criterion operator.fields = .error impasse ↔
      .value ∈ operator.fields ∧ criterion.value.Stops column.type impasse := by
  have hone : coerceFields zone column.type criterion [.value] = .error impasse ↔
      criterion.value.Stops column.type impasse := by
    rw [← Value.coerce_eq_error_iff zone, coerceFields, ValueField.of]
    cases coerce zone column.type criterion.value with
    | error other => simp [bind, Except.bind]
    | ok answer => cases answer <;> simp [bind, Except.bind, pure, Except.pure, coerceFields]
  rcases operator.fields_cases with hfields | hfields | hfields
  · rw [hfields]
    exact iff_of_false (by simp [coerceFields]) fun h => by cases h.1
  · rw [hfields, hone]
    simp
  · have hkind := Family.of_range operator h hfields
    have hanswers (value : Value) : ∃ answer, coerce zone column.type value = .ok answer :=
      Value.coerce_isOk_iff.mpr fun ⟨_, h⟩ => Value.not_stops hkind h
    obtain ⟨outcome, houtcome⟩ := coerceFields_isOk operator.fields
      fun field _ => hanswers (field.of criterion)
    rw [houtcome]
    exact iff_of_false (by simp) fun h => Value.not_stops hkind h.2

theorem resolve_eq_error_iff :
    criterion.resolve zone schema = .error impasse ↔ criterion.Stops zone schema impasse := by
  unfold resolve Stops
  cases hunfit : criterion.unfit zone schema with
  | cons problem problems => simp [pure, Except.pure]
  | nil =>
    cases hcolumn : schema.column? criterion.columnId with
    | none => simp [pure, Except.pure]
    | some column =>
      simp only
      cases hoperator : operatorFor? criterion column with
      | none => simp [hoperator, pure, Except.pure]
      | some operator =>
        have hknown : operator ∈ column.family.operators := by
          unfold operatorFor? at hoperator
          simpa using (Option.filter_eq_some_iff.mp hoperator).2
        simp only [Option.some.injEq, true_and, exists_and_left, exists_eq_left', hoperator]
        rw [← coerceFields_eq_error_iff zone hknown]
        cases coerceFields zone column.type criterion operator.fields with
        | error other => simp [bind, Except.bind]
        | ok outcome => cases outcome <;> simp [bind, Except.bind, pure, Except.pure]

theorem resolves_iff :
    criterion.Resolves zone schema ↔ ¬ ∃ impasse, criterion.Stops zone schema impasse := by
  simp only [Resolves, ← resolve_eq_error_iff]
  cases criterion.resolve zone schema <;> simp

end Criterion

theorem resolveAll_isOk_iff {zone : Zone} {schema : Schema} {criteria : List Criterion} :
    (∃ outcome, resolveAll zone schema criteria = .ok outcome) ↔ AllResolve zone schema criteria :=
  ⟨fun ⟨_, h⟩ => allResolve_of_resolveAll h, fun all => ⟨_, resolveAll_eq_ok all⟩⟩

/-- Coercion answers unless the value stops it, by brackets that nest too deep or by halves of surrogate
pairs.  Text in a structured column is read if it spells a value within the limits of the reader; it is kept
as it is only if it spells no value at all, refused or not answered only if it is beyond a limit, and else
spells halves of pairs.  A criterion is resolved or dropped unless it has to be compared with a value that
stops coercion, and so is a list of them. -/
theorem coercion_answers_iff (zone : Zone) :
    (∀ type (value : Value), (∃ answer, coerce zone type value = .ok answer) ↔
      ¬ ∃ impasse, value.Stops type impasse) ∧
    (∀ type (value : Value) impasse, value.Stops type impasse → impasse ≠ .unpaired →
      Json.maxDepth < value.nesting) ∧
    (∀ type s, isStructured type →
      (∀ value, Json.SpellsWithin 4300 Json.maxDepth s value →
        coerce zone type (.text s) = .ok (.usable value)) ∧
      (coerce zone type (.text s) = .error .unpaired ↔ Json.SpellsHalves 4300 Json.maxDepth s) ∧
      ((¬ ∃ value, Json.SpellsWithin 4300 Json.maxDepth s value) →
        ¬ Json.SpellsHalves 4300 Json.maxDepth s →
        (coerce zone type (.text s) = .ok (.usable (.text s)) ∧ ¬ ∃ value, Json.Spells s value) ∨
        (∃ digits, coerce zone type (.text s) = .ok (.refused (.longNumber digits)) ∧
          4300 < digits ∧ digits ≤ Json.digitCount s.toList) ∨
        ∃ array, coerce zone type (.text s) = .error (.reading array) ∧
          Json.maxDepth < Json.opens s.toList)) ∧
    (∀ schema (criterion : Criterion), criterion.Resolves zone schema ↔
      ¬ ∃ impasse, criterion.Stops zone schema impasse) ∧
    ∀ schema criteria, (∃ outcome, resolveAll zone schema criteria = .ok outcome) ↔
      ∀ criterion ∈ criteria, criterion.Resolves zone schema := by
  refine ⟨fun _ _ => Value.coerce_isOk_iff, fun _ _ _ h => h.lt_nesting, ?_,
    fun _ _ => Criterion.resolves_iff, fun _ _ => resolveAll_isOk_iff⟩
  intro type s structured
  have hcoerce : coerce zone type (.text s) = coerceStructured (.text s) :=
    Value.coerce_of_structured structured rfl
  rw [hcoerce, ← Json.read_eq_unpaired_iff]
  refine ⟨?_, ?_, ?_⟩
  · intro value hspells
    rw [coerceStructured, Json.read_eq_ok_iff.mpr hspells]
  · rw [coerceStructured_eq_error_iff]
    simp
  · intro hnone hpaired
    rw [coerceStructured]
    cases hread : Json.read Json.maxDepth s with
    | ok value => exact absurd ⟨value, Json.read_eq_ok_iff.mp hread⟩ hnone
    | error fault =>
      cases fault with
      | malformed => exact .inl ⟨rfl, Json.not_spells_of_malformed hread⟩
      | longNumber digits => exact .inr (.inl ⟨digits, rfl, Json.lt_digitCount hread⟩)
      | tooDeep array => exact .inr (.inr ⟨array, rfl, Json.lt_opens hread⟩)
      | unpaired => exact absurd hread hpaired

/-- A text that spells a list is read, and an opening bracket alone is kept as it is. -/
theorem coercion_answers_iff_brackets :
    coerce .utc "json" (.text "[null]") = .ok (.usable (.list [.null])) ∧
      coerce .utc "json" (.text "[") = .ok (.usable (.text "[")) := by
  have hspells : Json.SpellsWithin 4300 Json.maxDepth "[null]" (.list [.null]) :=
    ⟨_, [], ⟨[], rfl, nofun⟩, .list ⟨[], rfl, nofun⟩ (.lastItem .null ⟨[], rfl, nofun⟩),
      ⟨[], rfl, nofun⟩⟩
  have hread : Json.read Json.maxDepth "[" = .error .malformed := by cbv
  have hnone : ¬ ∃ value, Json.SpellsWithin 4300 Json.maxDepth "[" value := by
    rintro ⟨value, h⟩
    rw [Json.read_eq_ok_iff.mpr h] at hread
    cases hread
  have hpaired : ¬ Json.SpellsHalves 4300 Json.maxDepth "[" := by
    rw [← Json.read_eq_unpaired_iff, hread]
    simp
  refine ⟨((coercion_answers_iff .utc).2.2.1 "json" "[null]" rfl).1 _ hspells, ?_⟩
  obtain ⟨hkept, -⟩ | ⟨digits, -, hmore, hless⟩ | ⟨array, -, hopens⟩ :=
    ((coercion_answers_iff .utc).2.2.1 "json" "[" rfl).2.2 hnone hpaired
  · exact hkept
  · exact absurd (hmore.trans_le hless) (by decide)
  · exact absurd hopens (by decide)

/-- Brackets that are only opened stop coercion and resolution, and a long row of digits is refused. -/
theorem coercion_fails_brackets :
    let brackets := String.ofList (List.replicate 5000 '[')
    let criterion : Criterion :=
      ⟨1, "equals", .text brackets, .null, none, none, by decide, by decide⟩
    coerce .utc "json" (.text brackets) = .error (.reading true) ∧
      ¬ criterion.Resolves .utc ⟨[⟨1, "data", "json", 0, none⟩]⟩ ∧
      coerce .utc "customArray" (.text (String.ofList (List.replicate 4301 '1'))) =
        .ok (.refused (.longNumber 4301)) := by
  intro brackets criterion
  have hbrackets : (Value.text brackets).Stops "json" (.reading true) :=
    .reading rfl (Json.read_replicate (by decide))
  refine ⟨(Value.coerce_eq_error_iff .utc).mpr hbrackets, ?_, ?_⟩
  · rw [Criterion.resolves_iff, not_not]
    exact ⟨_, ⟨1, "data", "json", 0, none⟩, .equals, rfl, rfl, rfl, List.mem_singleton_self _,
      hbrackets⟩
  · rw [Value.coerce_of_structured rfl rfl, coerceStructured, Json.read_ones Json.maxDepth (by decide)]

end GridQuery
