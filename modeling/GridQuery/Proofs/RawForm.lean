import GridQuery.Proofs.Calendar.Kept
import GridQuery.Proofs.Constraint
import GridQuery.Proofs.Json.Rewriting
import GridQuery.Proofs.Number.Rereading
import GridQuery.Proofs.Place
import Mathlib

/-!
# The way back from a raw form

The raw form of a coerced value is coerced to that value again, in every zone.  Each kind of type has its
own way there and back: decimal text, the names of the booleans, ISO text, JSON, or the value as it is.
Only instants that no coercion gives, with an offset of less than a second, come back as others.
-/

namespace GridQuery

/-- A value has a raw form in columns of a type, which is coerced to the value in every zone. -/
def Recovered (type : String) (value : Value) : Prop :=
  ∃ raw, rawForm type value = .ok raw ∧ ∀ zone, coerce zone type raw = .ok (.usable value)

section Numbers
variable {type : String} {value : Value} {x : Double}

theorem toNumber_of_text (s : String) : (Value.text s).toNumber =
    (Value.text (trimmed s)).toDouble >>= fun x =>
      if x.isFinite then .ok x else .error (.notFinite (.text s)) := rfl

theorem toNumber_text (h : x.isFinite) : (Value.text x.text).toNumber = .ok x := by
  have hvisible : ∀ c ∈ x.text.toList, 0x20 < c.toNat ∧ c.toNat < 0x80 := by
    intro c hc
    refine Json.isNumeric_cases (p := fun c => 0x20 < c.toNat ∧ c.toNat < 0x80) ?_ (by simp)
      (Double.isNumeric_text h c hc)
    intro d hd
    rw [Nat.toNat_digitChar_of_lt_ten hd]
    omega
  have hwhite : Text.trimBy Text.isWhiteSpace x.text.toList = x.text.toList := by
    refine Text.trimBy_of_forall fun c hc => ?_
    rw [Text.isWhiteSpace, Text.isBlank_eq_false (hvisible c hc), Bool.false_and]
  have hread : Double.ofText? (String.ofList (Text.trimBy Text.isWhiteSpace x.text.toList)) = some x := by
    rw [hwhite, String.ofList_toList, Double.ofText?_text h]
  have hdouble : (Value.text x.text).toDouble = .ok x := by
    unfold Value.toDouble
    simp only [hread]
  rw [toNumber_of_text, trimmed_of_visible hvisible, hdouble]
  exact if_pos h

theorem isFinite_of_toNumber (h : value.toNumber = .ok x) : x.isFinite := by
  have last {result : Except CoercionFault Double} (h : (result >>= fun y =>
      if y.isFinite then .ok y else .error (.notFinite value)) = .ok x) : x.isFinite := by
    obtain ⟨y, _, h⟩ := Steps.bind_eq_ok_iff.mp h
    split at h
    · cases h
      assumption
    · cases h
  cases value with
  | null => cases h
  | bool b => cases h
  | _ => exact last h

theorem recovered_real (htype : Family.ofType type = .numeric) (h : x.isFinite) :
    Recovered type (.real x) := by
  refine ⟨.text x.text, ?_, ?_⟩
  · simp only [rawForm, htype]
    rfl
  · intro zone
    rw [Value.coerce_of_numeric htype rfl, toNumber_text h]
    rfl

end Numbers

theorem recovered_bool (flag : Bool) : Recovered "boolean" (.bool flag) := by
  refine ⟨.text (if flag then "true" else "false"), rfl, ?_⟩
  intro zone
  cases flag with
  | true => rfl
  | false => rfl

theorem recovered_null (type : String) : Recovered type .null := by
  refine ⟨.null, ?_, fun zone => rfl⟩
  unfold rawForm
  split <;> simp_all

section Dates
variable {type : String} {value : Value} {zone : Zone} {t : Instant}

theorem timestampOfText_isoText (stamp : Timestamp) :
    timestampOfText stamp.isoText = .ok ⟨stamp.reading, stamp.offset.map Iso.reread⟩ := by
  have hrange := Iso.range_isoText stamp
  have htrimmed : trimmed stamp.isoText = stamp.isoText :=
    trimmed_of_visible fun c hc => ⟨(hrange c hc).1, Nat.lt_trans (hrange c hc).2 (by decide)⟩
  have hspelled : stamp.isoText.toList.flatMap (fun c => if c = 'Z' then "+00:00".toList else [c]) =
      stamp.isoText.toList := by
    refine Iso.flatMap_eq_self fun c hc => if_neg ?_
    rintro rfl
    exact Nat.lt_irrefl _ (hrange _ hc).2
  have hlength : 10 < stamp.isoText.length := by
    rw [← String.length_toList, Iso.toList_isoText, List.length_append, List.length_cons]
    have hdate : (Iso.dateChars stamp.reading.date).length = 10 := rfl
    omega
  have hempty : stamp.isoText.isEmpty = false := by
    rw [String.isEmpty_eq_false_iff]
    intro hnil
    rw [hnil] at hlength
    exact absurd hlength (by decide)
  simp only [timestampOfText, htrimmed, hempty, hspelled, String.ofList_toList, Timestamp.ofIso_isoText]
  rw [if_neg Bool.false_ne_true, if_neg (by omega)]
  rfl

theorem toInstant_isoText (zone : Zone) (t : Instant) :
    (Value.text t.isoText).toInstant zone = .ok ⟨t.reading, Iso.reread t.offset⟩ := by
  have hstamp := timestampOfText_isoText t.toTimestamp
  rw [Value.toInstant, Instant.isoText, hstamp]
  rfl

theorem rawForm_time (htype : Family.ofType type = .date) (t : Instant) :
    rawForm type (.time t.toTimestamp) = .ok (.text t.isoText) := by
  simp only [rawForm, htype]
  rfl

theorem recovered_time (htype : Family.ofType type = .date) (h : t.offset.Kept) :
    Recovered type (.time t.toTimestamp) := by
  refine ⟨.text t.isoText, rawForm_time htype t, ?_⟩
  intro zone
  rw [Value.coerce_of_date htype rfl, toInstant_isoText, Iso.reread_eq_self_iff.mpr h]
  rfl

theorem kept_of_timestampOfText {text : String} {stamp : Timestamp} {offset : Offset}
    (h : timestampOfText text = .ok stamp) (hoffset : stamp.offset = some offset) : offset.Kept := by
  simp only [timestampOfText] at h
  split at h
  · cases h
  · split at h
    · obtain ⟨date, _, h⟩ := Steps.bind_eq_ok_iff.mp (calendarResult_eq_ok_iff.mp h)
      cases h
      cases hoffset
      exact Offset.kept_utc
    · exact Timestamp.kept_of_ofIso (calendarResult_eq_ok_iff.mp h) hoffset

theorem kept_of_toInstant (whole : zone.WholeSeconds) (json : value.IsJson)
    (h : value.toInstant zone = .ok t) : t.offset.Kept := by
  cases value with
  | time stamp => exact json.elim
  | date d => exact json.elim
  | int n =>
    obtain ⟨reading, rfl⟩ := Instant.eq_ofUtc_of_ofEpoch (calendarResult_eq_ok_iff.mp h)
    exact Offset.kept_utc
  | real x =>
    obtain ⟨reading, rfl⟩ := Instant.eq_ofUtc_of_ofMillis (calendarResult_eq_ok_iff.mp h)
    exact Offset.kept_utc
  | text s =>
    obtain ⟨stamp, hstamp, h⟩ := Steps.bind_eq_ok_iff.mp h
    exact whole.kept_of_instantOf (fun offset => kept_of_timestampOfText hstamp)
      (calendarResult_eq_ok_iff.mp h)
  | null => cases h
  | bool b => cases h
  | list items => cases h
  | object fields => cases h

end Dates

section Structures
variable {type : String} {value coerced : Value}

theorem recovered_legible (htype : isStructured type = true) (h : value.Legible Json.maxDepth) :
    Recovered type value := by
  cases hnull : value.isNull with
  | true =>
    rw [Value.eq_null_of_isNull hnull]
    exact recovered_null type
  | false =>
    refine ⟨.text (String.ofList (Json.write false value)), ?_, ?_⟩
    · have hkind : type = "json" ∨ type = "customArray" := by simpa [isStructured] using htype
      have hwritable := Json.unwritable?_eq_none h.readable
      rcases hkind with rfl | rfl <;> cases value with
      | null => cases hnull
      | _ => simp [rawForm, isStructured, hwritable, Family.ofType]
    · intro zone
      rw [Value.coerce_of_structured htype rfl, coerceStructured, Json.read_write_of_legible h]

theorem legible_of_coerceStructured (hvalue : value.Legible Json.maxDepth)
    (h : coerceStructured value = .ok (.usable coerced)) : coerced.Legible Json.maxDepth := by
  cases value with
  | text s =>
    simp only [coerceStructured] at h
    split at h
    · cases h
      exact Json.legible_of_read ‹_›
    · cases h
      exact hvalue
    all_goals cases h
  | _ =>
    cases h
    exact hvalue

end Structures

section Texts
variable {type text : String}

theorem recovered_text (hplain : Family.ofType type = .text ∨ Family.ofType type = .other)
    (unstructured : isStructured type = false) (text : String) :
    Recovered type (.text (trimmed text)) := by
  refine ⟨.text (trimmed text), ?_, ?_⟩
  · rcases hplain with h | h <;> simp [rawForm, h, unstructured]
  · intro zone
    have hcoerced : coerceText (.text (trimmed text)) = .text (trimmed text) :=
      congrArg Value.text (trimmed_trimmed text)
    rw [Value.coerce_of_plain hplain unstructured rfl, hcoerced]
    rfl

theorem coerceReference_coerceReference (value : Value) :
    coerceReference (coerceReference value) = coerceReference value := by
  cases value with
  | list items => simp [coerceReference, Value.plain]
  | _ => rfl

theorem obstacle?_coerceReference (value : Value) :
    (coerceReference value).obstacle? false Json.maxDepth = none := by
  rw [Value.obstacle?_eq_none_iff]
  have hitems (items : List Value) :
      Value.itemsDepth (items.map fun item => .text item.plain) = 0 ∧
      Value.ItemsShort (items.map fun item => .text item.plain) := by
    induction items with
    | nil => exact ⟨rfl, trivial⟩
    | cons item items ih => exact ⟨Nat.max_eq_zero_iff.mpr ⟨rfl, ih.1⟩, trivial, ih.2⟩
  cases value with
  | list items =>
    obtain ⟨hdepth, hshort⟩ := hitems items
    refine ⟨?_, hshort⟩
    rw [coerceReference, Value.depth, hdepth]
    decide
  | _ => exact ⟨Nat.zero_le _, trivial⟩

theorem recovered_reference (value : Value) : Recovered "reference" (coerceReference value) := by
  refine ⟨coerceReference value, ?_, ?_⟩
  · cases value <;> rfl
  · intro zone
    have hnull : (coerceReference value).isNull = false := by cases value <;> rfl
    rw [Value.coerce_reference hnull, coerceReference_coerceReference, obstacle?_coerceReference]
    rfl

end Texts

/-- Coerced values have a raw form that is coerced to them again, where clocks differ from UTC by whole
seconds.  So has every instant of a column of dates, unless its offset is less than a second: then its
reading comes back as one in UTC. -/
theorem rawForm_rightInverse (type : String) :
    (∀ zone : Zone, zone.WholeSeconds → ∀ value coerced : Value, value.IsJson → value.Short →
      value.depth ≤ Json.maxDepth → coerce zone type value = .ok (.usable coerced) →
        Recovered type coerced) ∧
    (Family.ofType type = .date → ∀ t : Instant, ∃ raw back,
      rawForm type (.time t.toTimestamp) = .ok raw ∧
      (∀ zone, coerce zone type raw = .ok (.usable (.time (Instant.toTimestamp back)))) ∧
      (back.micros = t.micros ↔ t.offset.Kept) ∧ (t.offset.Kept → back = t)) := by
  constructor
  · intro zone whole value coerced json short shallow hcoerce
    cases hnull : value.isNull with
    | true =>
      rw [Value.eq_null_of_isNull hnull] at hcoerce
      cases hcoerce
      exact recovered_null type
    | false =>
      cases typeKind type with
      | numeric htype =>
        rw [Value.coerce_of_numeric htype hnull, Except.ok.injEq, Coerced.ofExcept_eq_usable_iff] at hcoerce
        obtain ⟨x, hx, rfl⟩ := hcoerce
        exact recovered_real htype (isFinite_of_toNumber hx)
      | date htype =>
        rw [Value.coerce_of_date htype hnull, Except.ok.injEq, Coerced.ofExcept_eq_usable_iff] at hcoerce
        obtain ⟨t, ht, rfl⟩ := hcoerce
        exact recovered_time htype (kept_of_toInstant whole json ht)
      | boolean htype =>
        subst htype
        rw [Value.coerce_of_boolean rfl hnull] at hcoerce
        obtain ⟨flag, _, rfl⟩ := coerceBoolean_eq_usable_iff.mp hcoerce
        exact recovered_bool flag
      | structured htype =>
        rw [Value.coerce_of_structured htype hnull] at hcoerce
        exact recovered_legible htype
          (legible_of_coerceStructured ⟨json.readable, short, shallow⟩ hcoerce)
      | reference htype =>
        subst htype
        rw [Value.coerce_reference hnull, Coerced.past_eq_usable_iff] at hcoerce
        cases hcoerce.1
        exact recovered_reference value
      | plain htype unstructured =>
        obtain ⟨text, _, rfl⟩ := eq_text_of_coerce htype unstructured hnull hcoerce
        exact recovered_text htype unstructured text
  · intro htype t
    refine ⟨.text t.isoText, ⟨t.reading, Iso.reread t.offset⟩, rawForm_time htype t, ?_, ?_, ?_⟩
    · intro zone
      rw [Value.coerce_of_date htype rfl, toInstant_isoText]
      rfl
    · rw [← Iso.reread_eq_self_iff, Offset.ext_iff, Instant.micros, Instant.micros]
      dsimp only
      omega
    · intro hkept
      rw [Iso.reread_eq_self_iff.mpr hkept]

def secondDay : Instant := .ofUtc ⟨719163 * 86400000000, by decide⟩

/-- Midnight of the year 2024 on a clock a second and a half behind UTC. -/
def lateMidnight : Instant := ⟨⟨738885 * 86400000000, by decide⟩, ⟨-1500000, by decide⟩⟩

theorem rawForm_rightInverse_midnights :
    (Zone.ofText "CET-1CEST,M3.5.0,M10.5.0/3").WholeSeconds ∧ (Value.int 86400000).IsJson ∧
      (Value.int 86400000).Short ∧ (Value.int 86400000).depth ≤ Json.maxDepth ∧
      coerce (.ofText "CET-1CEST,M3.5.0,M10.5.0/3") "datetime" (.int 86400000) =
        .ok (.usable (.time secondDay.toTimestamp)) ∧
      Recovered "datetime" (.time secondDay.toTimestamp) ∧
      Family.ofType "datetime" = .date ∧ lateMidnight.offset.Kept ∧
      ∃ raw, rawForm "datetime" (.time lateMidnight.toTimestamp) = .ok raw ∧
        ∀ zone, coerce zone "datetime" raw = .ok (.usable (.time lateMidnight.toTimestamp)) := by
  have hshort : (Decimal.numeral 86400000).length ≤ 4300 := by decide
  have hcoerce : coerce (.ofText "CET-1CEST,M3.5.0,M10.5.0/3") "datetime" (.int 86400000) =
      .ok (.usable (.time secondDay.toTimestamp)) := rfl
  have hkept : lateMidnight.offset.Kept := .inr (by decide)
  obtain ⟨hcoerced, hinstants⟩ := rawForm_rightInverse "datetime"
  have hday := hcoerced _ (Zone.wholeSeconds_ofText _) (.int 86400000) _ trivial hshort
    (Nat.zero_le _) hcoerce
  obtain ⟨raw, back, hraw, hback, _, hsame⟩ := hinstants rfl lateMidnight
  rw [hsame hkept] at hback
  exact ⟨Zone.wholeSeconds_ofText _, trivial, hshort, Nat.zero_le _, hcoerce, hday, rfl, hkept, raw, hraw,
    hback⟩

/-- Midnight of the year 2024 on a clock half a second ahead of UTC. -/
def earlyMidnight : Instant := ⟨⟨738885 * 86400000000, by decide⟩, ⟨500000, by decide⟩⟩

theorem rawForm_rightInverse_fails_earlyMidnight :
    ¬ ∃ raw back, rawForm "datetime" (.time earlyMidnight.toTimestamp) = .ok raw ∧
      coerce .utc "datetime" raw = .ok (.usable (.time (Instant.toTimestamp back))) ∧
      back.micros = earlyMidnight.micros := by
  have hread := toInstant_isoText .utc earlyMidnight
  rintro ⟨raw, back, hraw, hcoerce, hmicros⟩
  rw [rawForm_time rfl] at hraw
  cases hraw
  rw [Value.coerce_of_date rfl rfl, hread] at hcoerce
  obtain ⟨reading, offset⟩ := back
  cases hcoerce
  exact absurd hmicros (by decide)

example : earlyMidnight.isoText = "2024-01-01T00:00:00+00:00:00.500000" := by cbv

end GridQuery
