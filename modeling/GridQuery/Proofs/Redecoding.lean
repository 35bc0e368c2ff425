import GridQuery.Proofs.Wire

/-!
# Filters that are decoded once more

A text of filters is decoded wherever it comes from, so the JSON text of some criteria is decoded once
more than it was encoded.  It is read as written if it holds no escape.  Escapes of characters that JSON
holds as they are do not disturb the reading, but each text is read as what it stands for.
-/

namespace GridQuery

open Text.Percent

/-- The text that a text stands for, with U+FFFD for bytes that stand for no character. -/
def decoded (s : String) : String := String.ofList (decode s.toList)

/-- A byte of a character that a quoted text holds as it is: no control, no quote and no backslash. -/
def Plain (b : UInt8) : Prop := 0x20 ≤ b.toNat ∧ b.toNat ≠ '"'.toNat ∧ b.toNat ≠ '\\'.toNat

/-- The escapes of a text stand for characters that a quoted text holds as they are. -/
structure Harmless (s : String) : Prop where
  plain : ∀ b, Part.byte b ∈ parts s.toList → Plain b
  stands : ∃ text, StandsFor s text

section Decoded
variable {s text : String}

theorem decoded_of_standsFor (h : StandsFor s text) : decoded s = text := by
  have hdecode := decode?_eq_some_iff_standsFor.mpr h
  rw [decode?, mapM_id_eq_some_iff] at hdecode
  rw [decoded, decode, hdecode, List.map_map]
  exact (congrArg String.ofList (List.map_id' _)).trans String.ofList_toList

theorem Harmless.standsFor (h : Harmless s) : StandsFor s (decoded s) := by
  obtain ⟨text, htext⟩ := h.stands
  rwa [decoded_of_standsFor htext]

theorem standsFor_self_iff : StandsFor s s ↔ Unescaped s.toList := bytes_eq_iff

theorem harmless_of_unescaped (h : Unescaped s.toList) : Harmless s where
  plain := by
    intro b hmem
    rw [h.parts_eq, List.mem_map] at hmem
    obtain ⟨c, _, heq⟩ := hmem
    cases heq
  stands := ⟨s, standsFor_self_iff.mpr h⟩

theorem Harmless.decoded_eq_iff (h : Harmless s) : decoded s = s ↔ Unescaped s.toList := by
  rw [← standsFor_self_iff]
  constructor
  · intro heq
    have hstands := h.standsFor
    rwa [heq] at hstands
  · exact decoded_of_standsFor

theorem decoded_ne (h : s ≠ "") : decoded s ≠ "" := by
  have hlist : s.toList ≠ [] := by
    intro heq
    exact h (String.toList_injective heq)
  have hchars := @characters_ne_nil _ none (Or.inr (parts_ne_nil hlist))
  intro heq
  have hnil := congrArg String.toList heq
  rw [decoded, String.toList_ofList, decode] at hnil
  exact hchars (List.map_eq_nil_iff.mp hnil)

end Decoded

namespace Json
variable {c : Char} {d : Nat} {text rest : List Char} {list : List Part}

theorem escapedChar_digit (h : Text.hexDigit? c = some d) : escapedChar c = [c] := by
  have hplain : ∀ n < 128, (Text.hexDigit? (Char.ofNat n)).isSome →
      escapedChar (Char.ofNat n) = [Char.ofNat n] := by decide
  have hsmall : c.toNat < 128 := by
    have hle : ∀ a b : Char, a ≤ b ↔ a.toNat ≤ b.toNat := fun _ _ => Iff.rfl
    unfold Text.hexDigit? at h
    simp only [hle] at h
    by_contra hbig
    rw [if_neg, if_neg, if_neg] at h
    · cases h
    all_goals
      intro hrange
      exact hbig (Nat.lt_of_le_of_lt hrange.2 (by decide))
  have hwritten := hplain c.toNat hsmall
  rw [Char.ofNat_toNat] at hwritten
  exact hwritten (by rw [h]; rfl)

theorem escapedChar_head (c : Char) :
    escapedChar c = [c] ∨ ∃ more, escapedChar c = '\\' :: more := by
  rcases escapedChar_cases c with ⟨_, escape, _, hwritten⟩ | ⟨_, _, _, _, hwritten⟩ | hwritten
  · exact Or.inr ⟨_, hwritten⟩
  · exact Or.inl hwritten
  · right
    rw [hwritten]
    unfold unitsOf
    split <;> exact ⟨_, rfl⟩

theorem written_digit (hdigit : Text.hexDigit? c = some d)
    (h : text.flatMap escapedChar = c :: rest) :
    ∃ more, text = c :: more ∧ more.flatMap escapedChar = rest := by
  cases text with
  | nil => cases h
  | cons first more =>
    rw [List.flatMap_cons] at h
    rcases escapedChar_head first with hfirst | ⟨behind, hfirst⟩
    · rw [hfirst] at h
      obtain ⟨rfl, hmore⟩ := List.cons.inj h
      exact ⟨more, rfl, hmore⟩
    · rw [hfirst] at h
      rw [← (List.cons.inj h).1] at hdigit
      cases hdigit

theorem not_mem_escapedChar (hc : c ≠ '%') : '%' ∉ escapedChar c := by
  rcases escapedChar_cases c with ⟨_, escape, hescape, hwritten⟩ | ⟨_, _, _, _, hwritten⟩ | hwritten
  · rw [hwritten]
    intro hmem
    simp only [List.mem_cons, List.not_mem_nil, or_false] at hmem
    rcases hmem with hmem | rfl
    · cases hmem
    · cases hescape
  · rw [hwritten]
    intro hmem
    exact hc (List.mem_singleton.mp hmem).symm
  · have hdigit : ∀ d < 16, Nat.digitChar d ≠ '%' := by decide
    have hmod (n : Nat) : ¬ '%' = Nat.digitChar (n % 16) := by
      intro heq
      exact hdigit _ (Nat.mod_lt n (by decide)) heq.symm
    rw [hwritten]
    simp [unitEscape, Text.hex, hmod]

theorem parts_escapedChar
    (h : c = '%' → ∀ high low more, text = high :: low :: more → byte? high low = none) :
    parts (escapedChar c ++ text.flatMap escapedChar) =
      (escapedChar c).map .char ++ parts (text.flatMap escapedChar) := by
  by_cases hc : c = '%'
  · have hwritten : escapedChar c = [c] := by
      rw [hc]
      rfl
    rw [hwritten, List.singleton_append, parts_cons, List.map_singleton, List.singleton_append]
    intro hc high low rest heq
    cases hbyte : byte? high low with
    | none => rfl
    | some b =>
      obtain ⟨⟨_, hhigh⟩, _, hlow⟩ := byte?_eq_some hbyte
      obtain ⟨more, rfl, hmore⟩ := written_digit hhigh heq
      obtain ⟨more, rfl, _⟩ := written_digit hlow hmore
      rw [h hc high low more rfl] at hbyte
      cases hbyte
  · exact parts_append_of_not_mem (not_mem_escapedChar hc) _

def writtenBytes : Part → List UInt8
  | .char c => (escapedChar c).flatMap String.utf8EncodeChar
  | .byte b => [b]

theorem parts_written_cons
    (h : c = '%' → ∀ high low more, text = high :: low :: more → byte? high low = none)
    (ih : (parts (text.flatMap escapedChar)).flatMap Part.bytes = (parts text).flatMap writtenBytes) :
    (parts ((c :: text).flatMap escapedChar)).flatMap Part.bytes =
      (parts (c :: text)).flatMap writtenBytes := by
  rw [parts_cons h, List.flatMap_cons, parts_escapedChar h, List.flatMap_append, ih,
    flatMap_bytes_char, List.flatMap_cons, writtenBytes]

theorem parts_written (text : List Char) :
    (parts (text.flatMap escapedChar)).flatMap Part.bytes = (parts text).flatMap writtenBytes := by
  induction text using parts.induct with
  | case1 high low more b hbyte ih =>
    obtain ⟨⟨_, hhigh⟩, _, hlow⟩ := byte?_eq_some hbyte
    have hsign : escapedChar '%' = ['%'] := rfl
    rw [parts_escape hbyte, List.flatMap_cons, List.flatMap_cons, List.flatMap_cons, hsign,
      escapedChar_digit hhigh, escapedChar_digit hlow, List.singleton_append, List.singleton_append,
      List.singleton_append, parts_escape hbyte, List.flatMap_cons, List.flatMap_cons, ih]
    rfl
  | case2 high low more hbyte ih =>
    refine parts_written_cons ?_ ih
    intro _ first second behind heq
    cases heq
    exact hbyte
  | case3 c more hshape ih =>
    refine parts_written_cons ?_ ih
    intro hc high low behind heq
    exact (hshape high low behind hc heq).elim
  | case4 => rfl

theorem plain_of_bytes (h : ∀ b ∈ String.utf8EncodeChar c, Plain b) :
    ¬ c.toNat < 0x20 ∧ c ≠ '"' ∧ c ≠ '\\' := by
  rcases Nat.lt_or_ge c.toNat 0x80 with hone | hmore
  · have hbyte : (UInt8.ofNat c.toNat).toNat = c.toNat :=
      Text.Utf8.toNat_ofNat_of_lt (Nat.lt_trans hone (by decide))
    obtain ⟨hcontrol, hquote, hslash⟩ := h (UInt8.ofNat c.toNat)
      (by rw [Text.Utf8.encode_of_one hone]; exact List.mem_singleton_self _)
    rw [hbyte] at hcontrol hquote hslash
    exact ⟨Nat.not_lt.mpr hcontrol, ne_of_apply_ne Char.toNat hquote, ne_of_apply_ne Char.toNat hslash⟩
  · refine ⟨by omega, ?_, ?_⟩ <;>
    · rintro rfl
      exact absurd hmore (by decide)

theorem exists_quoted {chars : List Char}
    (h : list.flatMap Part.bytes = chars.flatMap String.utf8EncodeChar)
    (hplain : ∀ b, Part.byte b ∈ list → Plain b) :
    ∃ body, list.flatMap writtenBytes = body.flatMap String.utf8EncodeChar ∧
      ∀ rest, ∃ units, Quoted units (body ++ '"' :: rest) rest ∧ joinUnits none units = some chars := by
  induction chars generalizing list with
  | nil =>
    refine ⟨[], ?_, fun rest => ⟨[], .close, rfl⟩⟩
    cases list with
    | nil => rfl
    | cons part list =>
      cases part with
      | byte b => cases h
      | char c =>
        obtain ⟨b, count, hencode⟩ := exists_encode_eq c
        rw [List.flatMap_cons, Part.bytes, hencode] at h
        cases h
  | cons c chars ih =>
    rw [List.flatMap_cons] at h
    obtain ⟨more, hmore, hlist⟩ := cases_of_bytes h
    rcases hlist with rfl | rfl
    · obtain ⟨body, hbody, hquoted⟩ := ih hmore fun b hmem => hplain b (List.mem_cons_of_mem _ hmem)
      refine ⟨escapedChar c ++ body, ?_, ?_⟩
      · rw [List.flatMap_cons, List.flatMap_append, hbody, writtenBytes]
      · intro rest
        obtain ⟨units, hunits, hchars⟩ := hquoted rest
        refine ⟨unitsOf c ++ units, ?_, by rw [joinUnits_unitsOf, hchars, Option.map_some]⟩
        rw [List.append_assoc]
        exact quoted_escapedChar c hunits
    · obtain ⟨body, hbody, hquoted⟩ := ih hmore fun b hmem => hplain b (List.mem_append_right _ hmem)
      obtain ⟨hcontrol, hquote, hslash⟩ := plain_of_bytes fun b hmem =>
        hplain b (List.mem_append_left _ (List.mem_map_of_mem hmem))
      refine ⟨c :: body, ?_, ?_⟩
      · rw [List.flatMap_append, hbody, List.flatMap_cons, List.flatMap_map]
        congr 1
        exact List.flatMap_singleton' _
      · intro rest
        obtain ⟨units, hunits, hchars⟩ := hquoted rest
        exact ⟨c.toNat :: units, .plain hcontrol hquote hslash hunits,
          by rw [joinUnits_code, hchars, Option.map_some]⟩

def Stands (raw chars : List Char) : Prop := ∀ rest, (parts (raw ++ rest)).flatMap Part.bytes =
  chars.flatMap String.utf8EncodeChar ++ (parts rest).flatMap Part.bytes

theorem Stands.append {a b x y : List Char} (hax : Stands a x) (hby : Stands b y) :
    Stands (a ++ b) (x ++ y) := by
  intro rest
  rw [List.append_assoc, hax, hby, List.flatMap_append, List.append_assoc]

theorem stands_plain {a : List Char} (h : '%' ∉ a) : Stands a a := by
  intro rest
  rw [parts_append_of_not_mem h, List.flatMap_append, flatMap_bytes_char]

theorem stands_writeText {s : String} (h : Harmless s) : ∃ body,
    Stands (writeText s) ('"' :: body ++ ['"']) ∧
      ∀ rest, QuotedText none (decoded s) (body ++ '"' :: rest) rest := by
  obtain ⟨body, hbody, hquoted⟩ := exists_quoted h.standsFor h.plain
  have hclose : Stands (s.toList.flatMap escapedChar ++ ['"']) (body ++ ['"']) := by
    intro rest
    have hquote := @stands_plain ['"'] (by decide) rest
    rw [List.singleton_append] at hquote
    rw [List.append_assoc, List.singleton_append, parts_append rfl, List.flatMap_append,
      parts_written, hbody, hquote, List.flatMap_append, List.append_assoc]
  refine ⟨body, (@stands_plain ['"'] (by decide)).append hclose, ?_⟩
  · exact hquoted

theorem rewriting_stands : Rewriting Stands Harmless decoded where
  append := Stands.append
  plain := stands_plain
  text := stands_writeText

end Json

namespace Criterion
variable {criterion : Criterion} {criteria : List Criterion}

/-- A criterion of which each text is read as what it stands for. -/
def redecoded (criterion : Criterion) : Criterion where
  columnId := criterion.columnId
  operator := decoded criterion.operator
  value := criterion.value.mapTexts decoded
  secondValue := criterion.secondValue.mapTexts decoded
  columnName := criterion.columnName.map decoded
  columnType := criterion.columnType.map decoded
  columnId_pos := criterion.columnId_pos
  operator_ne := decoded_ne criterion.operator_ne

theorem redecoded_echoed (echoed : criterion.Echoed) : criterion.redecoded.Echoed := by
  obtain ⟨name, hname, hnamed⟩ := echoed.columnName
  obtain ⟨type, htype, htyped⟩ := echoed.columnType
  exact ⟨⟨decoded name, by rw [redecoded, hname]; rfl, decoded_ne hnamed⟩,
    ⟨decoded type, by rw [redecoded, htype]; rfl, decoded_ne htyped⟩⟩

theorem mapTexts_ofText? (f : String → String) (text : Option String) :
    (Value.ofText? text).mapTexts f = Value.ofText? (text.map f) := by
  cases text <;> rfl

theorem mapTexts_payload (criterion : Criterion) :
    criterion.payload.mapTexts decoded = criterion.redecoded.payload := by
  have hkey (name : String) (h : '%' ∉ name.toList) : decoded name = name :=
    decoded_of_standsFor (standsFor_self h)
  simp only [payload, Value.mapTexts, Value.mapFieldTexts, mapTexts_ofText?,
    hkey "columnId" (by decide), hkey "operator" (by decide), hkey "value" (by decide),
    hkey "secondValue" (by decide), hkey "columnName" (by decide), hkey "columnType" (by decide)]
  rfl

theorem mapTexts_payloads (criteria : List Criterion) :
    (Value.list (criteria.map payload)).mapTexts decoded =
      .list ((criteria.map redecoded).map payload) := by
  rw [Value.mapTexts]
  congr 1
  induction criteria with
  | nil => rfl
  | cons criterion criteria ih =>
    rw [List.map_cons, Value.mapItemTexts, mapTexts_payload, ih, List.map_cons, List.map_cons]

theorem ofText?_injective : Function.Injective Value.ofText? := by
  intro a b h
  cases a <;> cases b <;> cases h <;> rfl

theorem payload_injective : Function.Injective payload := by
  intro a b h
  obtain ⟨id, operator, value, secondValue, name, type, _, _⟩ := a
  simp only [payload, Value.object.injEq, List.cons.injEq, Prod.mk.injEq, Value.int.injEq,
    Value.text.injEq, ofText?_injective.eq_iff, true_and, and_true] at h
  obtain ⟨rfl, rfl, rfl, rfl, rfl, rfl⟩ := h
  rfl

theorem wires_eq_payloads (payloads : ∀ criterion ∈ criteria, criterion.IsPayload) :
    wires criteria = .list (criteria.map payload) :=
  congrArg Value.list (List.map_congr_left fun _ hmem => wire_eq_payload (payloads _ hmem))

/-- Criteria are read as they are if and only if each text in them stands for itself. -/
theorem redecoded_eq_self_iff (payloads : ∀ criterion ∈ criteria, criterion.IsPayload) :
    criteria.map redecoded = criteria ↔ ∀ s ∈ (wires criteria).texts, decoded s = s := by
  rw [← Value.mapTexts_eq_self_iff _ (wires_isJson payloads).readable, wires_eq_payloads payloads,
    mapTexts_payloads, Value.list.injEq, (List.map_injective_iff.mpr payload_injective).eq_iff]

theorem forall₂_describedBy_redecoded (payloads : ∀ criterion ∈ criteria, criterion.IsPayload) :
    List.Forall₂ DescribedBy (criteria.map redecoded) ((criteria.map redecoded).map payload) := by
  rw [List.forall₂_map_right_iff, List.forall₂_same, List.forall_mem_map]
  intro criterion hmem
  exact describedBy_payload (redecoded_echoed (payloads criterion hmem).toEchoed)

end Criterion

section Reading
variable {criteria : List Criterion}

theorem readFilters_redecoded (payloads : ∀ criterion ∈ criteria, criterion.IsPayload)
    (hdepth : (Criterion.wires criteria).depth ≤ Json.maxDepth)
    (harmless : ∀ s ∈ (Criterion.wires criteria).texts, Harmless s) :
    readFilters (filtersText criteria) = .ok (criteria.map Criterion.redecoded) := by
  obtain ⟨chars, hstands, hdenotes⟩ := Json.denotes_rewritten Json.rewriting_stands _
    (Criterion.wires_isJson payloads).readable (Criterion.wires_short payloads) hdepth harmless
  have hraw := hstands []
  have hvalue := hdenotes []
  rw [List.append_nil] at hraw hvalue
  rw [Criterion.wires_eq_payloads payloads, Criterion.mapTexts_payloads] at hvalue
  apply readFilters_eq_ok_iff.mpr
  refine Or.inl ⟨_, ⟨String.ofList chars, ?_, ?_⟩, Criterion.forall₂_describedBy_redecoded payloads⟩
  · rw [StandsFor, filtersText, String.toList_ofList, String.toList_ofList, hraw]
    exact List.append_nil _
  · rw [Json.SpellsWithin, Json.SpellsWith, String.toList_ofList]
    exact ⟨_, [], Json.spaces_refl _, hvalue, Json.spaces_refl []⟩

theorem readFilters_of_unescaped {raw : String}
    (payloads : ∀ criterion ∈ criteria, criterion.IsPayload)
    (hspells : Json.SpellsWithin 4300 Json.maxDepth raw (Criterion.wires criteria))
    (hraw : Unescaped raw.toList) : readFilters raw = .ok criteria := by
  apply readFilters_eq_ok_iff.mpr
  exact Or.inl ⟨_, ⟨raw, standsFor_self_iff.mpr hraw, hspells⟩,
    Criterion.forall₂_describedBy_wire payloads⟩

/-- Filters that come without percent encoding.  A text in JSON of some criteria is read as these if it
holds no escape, however it is written.  The text that is written for them holds none if no text in them
does.  If their escapes are harmless, then each text is read as what it stands for, so that the criteria
are read as they are only if they hold no escape. -/
theorem readFilters_filtersText (payloads : ∀ criterion ∈ criteria, criterion.IsPayload)
    (hdepth : (Criterion.wires criteria).depth ≤ Json.maxDepth) :
    (∀ raw, Json.SpellsWithin 4300 Json.maxDepth raw (Criterion.wires criteria) →
      Unescaped raw.toList → readFilters raw = .ok criteria) ∧
    ((∀ s ∈ (Criterion.wires criteria).texts, Unescaped s.toList) →
      readFilters (filtersText criteria) = .ok criteria) ∧
    ((∀ s ∈ (Criterion.wires criteria).texts, Harmless s) →
      readFilters (filtersText criteria) = .ok (criteria.map Criterion.redecoded) ∧
      (readFilters (filtersText criteria) = .ok criteria ↔
        ∀ s ∈ (Criterion.wires criteria).texts, Unescaped s.toList)) := by
  have hiff (harmless : ∀ s ∈ (Criterion.wires criteria).texts, Harmless s) :
      readFilters (filtersText criteria) = .ok criteria ↔
        ∀ s ∈ (Criterion.wires criteria).texts, Unescaped s.toList := by
    rw [readFilters_redecoded payloads hdepth harmless, Except.ok.injEq,
      Criterion.redecoded_eq_self_iff payloads]
    exact forall₂_congr fun s hmem => (harmless s hmem).decoded_eq_iff
  refine ⟨fun raw => readFilters_of_unescaped payloads, ?_, ?_⟩
  · intro hunescaped
    exact (hiff fun s hmem => harmless_of_unescaped (hunescaped s hmem)).mpr hunescaped
  · intro harmless
    exact ⟨readFilters_redecoded payloads hdepth harmless, hiff harmless⟩

/-- A criterion with a percent sign in its value that may be the start of an escape. -/
def shareCriterion (value : String) : Criterion :=
  ⟨1, "ends_with", .text value, .null, some "name", some "text", Int.zero_lt_one, by decide⟩

theorem shareCriterion_isPayload (value : String) : (shareCriterion value).IsPayload where
  columnId := show (Decimal.numeral 1).length ≤ 4300 by decide
  value := trivial
  valueShort := trivial
  secondValue := trivial
  secondValueShort := trivial
  columnName := ⟨"name", rfl, by decide⟩
  columnType := ⟨"text", rfl, by decide⟩

theorem readFilters_filtersText_share :
    readFilters (filtersText [shareCriterion "100% wool"]) = .ok [shareCriterion "100% wool"] := by
  have hpayloads := List.forall_mem_singleton.mpr (shareCriterion_isPayload "100% wool")
  refine (readFilters_filtersText hpayloads (by decide)).2.1 ?_
  intro s hmem
  apply bytes_eq_iff.mp
  revert s
  decide

/-- A value that looks like an escape is read as the character of that. -/
theorem readFilters_filtersText_ne_share :
    readFilters (filtersText [shareCriterion "%41"]) = .ok [shareCriterion "A"] ∧
      shareCriterion "A" ≠ shareCriterion "%41" := by
  have hpayloads := List.forall_mem_singleton.mpr (shareCriterion_isPayload "%41")
  have hvalue : Harmless "%41" := by
    refine ⟨?_, "A", by rw [StandsFor]; decide⟩
    intro b hmem
    obtain rfl : b = 0x41 := Part.byte.inj (List.mem_singleton.mp hmem)
    exact ⟨by decide, by decide, by decide⟩
  have hothers : ∀ s ∈ (Criterion.wires [shareCriterion "%41"]).texts, s ≠ "%41" →
      Unescaped s.toList := by
    simp only [← bytes_eq_iff]
    decide
  have hread : (shareCriterion "%41").redecoded = shareCriterion "A" := by
    apply Criterion.payload_injective
    rw [← Criterion.mapTexts_payload]
    rfl
  refine ⟨?_, ?_⟩
  · rw [← hread]
    apply readFilters_redecoded hpayloads (by decide)
    intro s hmem
    by_cases heq : s = "%41"
    · rw [heq]
      exact hvalue
    · exact harmless_of_unescaped (hothers s hmem heq)
  · intro heq
    have hvalue := congrArg Criterion.value heq
    exact absurd (Value.text.inj hvalue) (by decide)

end Reading

end GridQuery
