import GridQuery.Proofs.Json.Grammar
import GridQuery.Proofs.Json.Limits

/-!
# The values that JSON texts denote

A grammar of JSON with the depth to which brackets may nest, and with a character or none for halves of
surrogate pairs that stand alone.  The reader finds exactly the values that the grammar gives to a text, so
the fuel it runs on is always enough.  It refuses a text for such halves if and only if the grammar would
give it a value with a character for them, and gives it none without.
-/

namespace GridQuery.Json

/-- A piece of JSON: a value, or what is behind an opening bracket up to the closing one. -/
inductive Piece
  | value (value : Value)
  | items (items : List Value)
  | fields (fields : List (String × Value))

def setFields (before fields : List (String × Value)) : List (String × Value) :=
  fields.foldl (fun fields field => setField field.1 field.2 fields) before

/-- A text starts with what denotes a piece, in brackets that nest at most so deep, and a rest is behind. -/
inductive Denotes (lone : Option Char) (longest : Nat) : (depth : Nat) → Piece → (text rest : List Char) → Prop
  | null {depth rest} : Denotes lone longest depth (.value .null) ('n' :: 'u' :: 'l' :: 'l' :: rest) rest
  | boolTrue {depth rest} :
      Denotes lone longest depth (.value (.bool true)) ('t' :: 'r' :: 'u' :: 'e' :: rest) rest
  | boolFalse {depth rest} :
      Denotes lone longest depth (.value (.bool false)) ('f' :: 'a' :: 'l' :: 's' :: 'e' :: rest) rest
  | nan {depth rest} : Denotes lone longest depth (.value (.real .nan)) ('N' :: 'a' :: 'N' :: rest) rest
  | number {depth value text rest} (number : Number longest value text rest) :
      Denotes lone longest depth (.value value) text rest
  | text {depth s text rest} (quoted : QuotedText lone s text rest) :
      Denotes lone longest depth (.value (.text s)) ('"' :: text) rest
  | noItems {depth text rest} (close : Spaces text (']' :: rest)) :
      Denotes lone longest (depth + 1) (.value (.list [])) ('[' :: text) rest
  | list {depth items text start rest} (space : Spaces text start)
      (more : Denotes lone longest depth (.items items) start rest) :
      Denotes lone longest (depth + 1) (.value (.list items)) ('[' :: text) rest
  | noFields {depth text rest} (close : Spaces text ('\x7d' :: rest)) :
      Denotes lone longest (depth + 1) (.value (.object [])) ('\x7b' :: text) rest
  | object {depth fields text start rest} (space : Spaces text start)
      (more : Denotes lone longest depth (.fields fields) start rest) :
      Denotes lone longest (depth + 1) (.value (.object (setFields [] fields))) ('\x7b' :: text) rest
  | lastItem {depth item text stop rest} (first : Denotes lone longest depth (.value item) text stop)
      (close : Spaces stop (']' :: rest)) : Denotes lone longest depth (.items [item]) text rest
  | nextItem {depth item items text stop behind start rest}
      (first : Denotes lone longest depth (.value item) text stop) (comma : Spaces stop (',' :: behind))
      (space : Spaces behind start) (more : Denotes lone longest depth (.items items) start rest) :
      Denotes lone longest depth (.items (item :: items)) text rest
  | lastField {depth name value text stop behind start last rest} (quoted : QuotedText lone name text stop)
      (colon : Spaces stop (':' :: behind)) (space : Spaces behind start)
      (first : Denotes lone longest depth (.value value) start last) (close : Spaces last ('\x7d' :: rest)) :
      Denotes lone longest depth (.fields [(name, value)]) ('"' :: text) rest
  | nextField {depth name value fields text stop behind start last after next rest}
      (quoted : QuotedText lone name text stop) (colon : Spaces stop (':' :: behind))
      (space : Spaces behind start) (first : Denotes lone longest depth (.value value) start last)
      (comma : Spaces last (',' :: after)) (gap : Spaces after next)
      (more : Denotes lone longest depth (.fields fields) next rest) :
      Denotes lone longest depth (.fields ((name, value) :: fields)) ('"' :: text) rest

/-- A whole text spells a value, where `lone` stands for halves of pairs. -/
def SpellsWith (lone : Option Char) (longest depth : Nat) (text : String) (value : Value) : Prop :=
  ∃ start stop, Spaces text.toList start ∧ Denotes lone longest depth (.value value) start stop ∧
    Spaces stop []

/-- A whole text spells a value, with numbers that are not longer and brackets that do not nest deeper. -/
def SpellsWithin (longest depth : Nat) (text : String) (value : Value) : Prop :=
  SpellsWith none longest depth text value

/-- A whole text spells a value in JSON, with a placeholder for halves of pairs. -/
def Spells (text : String) (value : Value) : Prop :=
  ∃ longest depth, SpellsWith (some placeholder) longest depth text value

/-- A whole text spells a value only if a placeholder stands for halves of pairs in it. -/
def SpellsHalves (longest depth : Nat) (text : String) : Prop :=
  (∃ value, SpellsWith (some placeholder) longest depth text value) ∧
    ¬ ∃ value, SpellsWithin longest depth text value

section Sound

theorem spaces_of_skipSpace {text rest : List Char} (h : skipSpace text = rest) :
    Spaces text rest := h ▸ spaces_skipSpace text

/-- All readers with some fuel find only what is denoted. -/
structure FuelSound (lone : Option Char) (fuel : Nat) : Prop where
  value : ∀ {depth text value rest}, readValue lone fuel depth text = .ok (value, rest) →
    Denotes lone 4300 depth (.value value) text rest
  items : ∀ {depth text items rest}, readItems lone fuel depth text = .ok (items, rest) →
    Denotes lone 4300 depth (.items items) text rest
  fields : ∀ {depth before text found rest}, readFields lone fuel depth before text = .ok (found, rest) →
    ∃ fields, found = setFields before fields ∧ Denotes lone 4300 depth (.fields fields) text rest

namespace FuelSound
variable {lone : Option Char} {fuel : Nat} (ih : FuelSound lone fuel) {depth : Nat} {text rest : List Char}
include ih

theorem value_succ {value : Value} (h : readValue lone (fuel + 1) depth text = .ok (value, rest)) :
    Denotes lone 4300 depth (.value value) text rest := by
  unfold readValue at h
  split at h
  · obtain ⟨⟨s, tail⟩, hread, heq⟩ := Steps.map_eq_ok_iff.mp h
    cases heq
    exact .text (readText_eq_ok_iff.mp hread)
  · split at h
    · cases h
    · rename_i hdepth
      obtain ⟨depth, rfl⟩ := Nat.exists_eq_add_one_of_ne_zero hdepth
      split at h
      · cases h
        exact .noItems (spaces_of_skipSpace ‹_›)
      · obtain ⟨⟨items, tail⟩, hread, heq⟩ := Steps.map_eq_ok_iff.mp h
        cases heq
        exact .list (spaces_skipSpace _) (ih.items hread)
  · split at h
    · cases h
    · rename_i hdepth
      obtain ⟨depth, rfl⟩ := Nat.exists_eq_add_one_of_ne_zero hdepth
      split at h
      · cases h
        exact .noFields (spaces_of_skipSpace ‹_›)
      · obtain ⟨⟨found, tail⟩, hread, heq⟩ := Steps.map_eq_ok_iff.mp h
        cases heq
        obtain ⟨fields, rfl, hfields⟩ := ih.fields hread
        exact .object (spaces_skipSpace _) hfields
  · cases h
    exact .null
  · cases h
    exact .boolTrue
  · cases h
    exact .boolFalse
  · cases h
    exact .nan
  · exact .number (number_of_readNumber h)

theorem items_succ {items : List Value} (h : readItems lone (fuel + 1) depth text = .ok (items, rest)) :
    Denotes lone 4300 depth (.items items) text rest := by
  unfold readItems at h
  obtain ⟨⟨item, stop⟩, hread, h⟩ := Steps.bind_eq_ok_iff.mp h
  dsimp only at h
  split at h
  · cases h
    exact .lastItem (ih.value hread) (spaces_of_skipSpace ‹_›)
  · obtain ⟨⟨more, tail⟩, hmore, h⟩ := Steps.bind_eq_ok_iff.mp h
    cases h
    exact .nextItem (ih.value hread) (spaces_of_skipSpace ‹_›) (spaces_skipSpace _) (ih.items hmore)
  · cases h

theorem fields_succ {before found : List (String × Value)}
    (h : readFields lone (fuel + 1) depth before text = .ok (found, rest)) :
    ∃ fields, found = setFields before fields ∧ Denotes lone 4300 depth (.fields fields) text rest := by
  unfold readFields at h
  dsimp only at h
  split at h
  · obtain ⟨⟨name, stop⟩, hname, h⟩ := Steps.bind_eq_ok_iff.mp h
    have hquoted := readText_eq_ok_iff.mp hname
    dsimp only at h
    split at h
    · obtain ⟨⟨value, last⟩, hvalue, h⟩ := Steps.bind_eq_ok_iff.mp h
      dsimp only at h
      split at h
      · cases h
        exact ⟨_, rfl, .lastField hquoted (spaces_of_skipSpace ‹_›) (spaces_skipSpace _)
          (ih.value hvalue) (spaces_of_skipSpace ‹_›)⟩
      · obtain ⟨fields, rfl, hfields⟩ := ih.fields h
        exact ⟨_, rfl, .nextField hquoted (spaces_of_skipSpace ‹_›) (spaces_skipSpace _)
          (ih.value hvalue) (spaces_of_skipSpace ‹_›) (spaces_skipSpace _) hfields⟩
      · cases h
    · cases h
  · cases h

end FuelSound

theorem fuelSound (lone : Option Char) (fuel : Nat) : FuelSound lone fuel := by
  induction fuel with
  | zero => exact ⟨nofun, nofun, nofun⟩
  | succ fuel ih => exact ⟨ih.value_succ, ih.items_succ, ih.fields_succ⟩

end Sound

section Complete

theorem isSpace_iff {c : Char} : isSpace c ↔ c = ' ' ∨ c = '\t' ∨ c = '\n' ∨ c = '\r' := by
  simp [isSpace, or_assoc]

theorem Spaces.ends {text rest : List Char} (h : Spaces text rest) (hrest : Ends rest) :
    Ends text := by
  obtain ⟨blank, rfl, hblank⟩ := h
  cases blank with
  | nil => exact hrest
  | cons c blank =>
    rintro d ⟨⟩
    rcases isSpace_iff.mp (hblank c List.mem_cons_self) with rfl | rfl | rfl | rfl <;> decide

theorem Number.head {longest : Nat} {value : Value} {text rest : List Char}
    (h : Number longest value text rest) :
    ∃ c more, text = c :: more ∧ (Text.isAsciiDigit c ∨ c = '-' ∨ c = 'I') := by
  cases h with
  | positive h =>
    obtain ⟨c, more, htext, hc⟩ := h.head_isAsciiDigit
    exact ⟨c, more, htext, .inl hc⟩
  | negative => exact ⟨_, _, rfl, .inr (.inl rfl)⟩
  | infinity => exact ⟨_, _, rfl, .inr (.inr rfl)⟩
  | negativeInfinity => exact ⟨_, _, rfl, .inr (.inl rfl)⟩

theorem ne_of_number_head {c other : Char} (hc : Text.isAsciiDigit c ∨ c = '-' ∨ c = 'I')
    (hother : ¬ (Text.isAsciiDigit other ∨ other = '-' ∨ other = 'I')) : c ≠ other := by
  rintro rfl
  exact hother hc

/-- A piece starts with a character that is neither white space nor a closing bracket. -/
theorem Denotes.head {lone : Option Char} {longest depth : Nat} {piece : Piece} {text rest : List Char}
    (h : Denotes lone longest depth piece text rest) :
    ∃ c more, text = c :: more ∧ ¬ isSpace c ∧ c ≠ ']' ∧ c ≠ '\x7d' := by
  induction h with
  | number h =>
    obtain ⟨c, more, htext, hc⟩ := h.head
    refine ⟨c, more, htext, fun hspace => ?_, ne_of_number_head hc (by decide),
      ne_of_number_head hc (by decide)⟩
    rcases isSpace_iff.mp hspace with rfl | rfl | rfl | rfl <;> exact absurd hc (by decide)
  | lastItem _ _ ih => exact ih
  | nextItem _ _ _ _ ih _ => exact ih
  | _ => exact ⟨_, _, rfl, by decide, by decide, by decide⟩

variable {lone : Option Char} {fuel depth : Nat} {text start stop rest : List Char} {items : List Value}
  {item : Value}

theorem readValue_number {c : Char} (hc : Text.isAsciiDigit c ∨ c = '-' ∨ c = 'I') :
    readValue lone (fuel + 1) depth (c :: text) = readNumber (c :: text) := by
  unfold readValue
  split
  case h_8 => rfl
  all_goals
    rename_i heq
    exact absurd (List.cons.inj heq).1 (ne_of_number_head hc (by decide))

theorem readValue_list (h : skipSpace text = start) (hstart : start.head? ≠ some ']') :
    readValue lone (fuel + 1) (depth + 1) ('[' :: text) =
      (readItems lone fuel depth start).map fun (items, rest) => (.list items, rest) := by
  subst h
  simp only [readValue, Nat.succ_ne_zero, if_false, Nat.add_sub_cancel]
  split
  · rename_i heq
    rw [heq] at hstart
    exact absurd rfl hstart
  · rfl

theorem readValue_object (h : skipSpace text = start) (hstart : start.head? ≠ some '\x7d') :
    readValue lone (fuel + 1) (depth + 1) ('\x7b' :: text) =
      (readFields lone fuel depth [] start).map fun (fields, rest) => (.object fields, rest) := by
  subst h
  simp only [readValue, Nat.succ_ne_zero, if_false, Nat.add_sub_cancel]
  split
  · rename_i heq
    rw [heq] at hstart
    exact absurd rfl hstart
  · rfl

/-- What a reader with enough fuel makes of a piece. -/
def Piece.Found (lone : Option Char) (kept : Prop) (fuel depth : Nat) (text rest : List Char) : Piece → Prop
  | .value found => 2 * text.length < fuel → Ends rest →
      Finds kept (readValue lone fuel depth text) (found, rest)
  | .items found => 2 * text.length + 1 < fuel →
      Finds kept (readItems lone fuel depth text) (found, rest)
  | .fields found => 2 * text.length + 1 < fuel → ∀ before,
      Finds kept (readFields lone fuel depth before text) (setFields before found, rest)

theorem Spaces.length_le (h : Spaces text rest) : rest.length ≤ text.length := by
  obtain ⟨blank, rfl, _⟩ := h
  simp

theorem Spaces.skipSpace_eq_cons {c : Char} (h : Spaces text (c :: rest)) (hc : ¬ isSpace c) :
    skipSpace text = c :: rest :=
  h.skipSpace_eq (by simpa using hc)

theorem Denotes.skipSpace_eq {longest : Nat} {piece : Piece}
    (h : Denotes lone longest depth piece start rest) (space : Spaces text start) :
    skipSpace text = start := by
  obtain ⟨c, more, rfl, hc, _⟩ := h.head
  exact space.skipSpace_eq_cons hc

theorem length_le_of_readValue (h : readValue lone fuel depth text = .ok (item, rest)) :
    rest.length ≤ text.length := by
  have hwithin := (fuelWithin lone fuel).value depth text
  rw [h] at hwithin
  exact List.IsSuffix.length_le hwithin

theorem length_le_of_quotedText {s : String} (h : QuotedText lone s text rest) :
    rest.length ≤ text.length := by
  have hwithin := readText_within lone 0 text
  rw [readText_eq_ok_iff.mpr h] at hwithin
  exact List.IsSuffix.length_le hwithin

theorem ends_nil : Ends [] := by simp [Ends]

theorem ends_of_cons {c : Char} (hc : c = ',' ∨ c = ']' ∨ c = '\x7d') : Ends (c :: rest) := by
  rintro d ⟨⟩
  rcases hc with rfl | rfl | rfl <;> decide

/-- The reader finds what is denoted, unless a number is too long or brackets nest too deep. -/
theorem Denotes.found {longest depth : Nat} {piece : Piece}
    (h : Denotes lone longest depth piece text rest) (fuel most : Nat) :
    piece.Found lone (longest ≤ 4300 ∧ depth ≤ most) fuel most text rest := by
  -- A list passes what is behind its bracket on to its items with one less of fuel, and they pass it
  -- on to a value with one less again: two of fuel are enough for each character.
  induction fuel generalizing depth most piece text rest with
  | zero => cases piece <;> exact nofun
  | succ fuel ih =>
    cases h with
    | null => exact fun _ _ => .inl rfl
    | boolTrue => exact fun _ _ => .inl rfl
    | boolFalse => exact fun _ _ => .inl rfl
    | nan => exact fun _ _ => .inl rfl
    | number h =>
      intro _ hends
      obtain ⟨c, more, rfl, hc⟩ := h.head
      rw [readValue_number hc]
      exact (h.finds hends).mono And.left
    | text quoted =>
      intro _ _
      change Finds _ ((readText lone _).map _) _
      rw [readText_eq_ok_iff.mpr quoted]
      exact .inl rfl
    | noItems close =>
      intro _ _
      cases most with
      | zero => exact .tooDeep (by omega)
      | succ most =>
        refine .inl ?_
        simp only [readValue, Nat.succ_ne_zero, if_false, close.skipSpace_eq_cons (by decide)]
    | list space more =>
      intro hfuel _
      cases most with
      | zero => exact .tooDeep (by omega)
      | succ most =>
        have hle := space.length_le
        have hitems := ih more most (by simp at hfuel; omega)
        have hstart := more.skipSpace_eq space
        obtain ⟨c, tail, rfl, _, hc, _⟩ := more.head
        rw [readValue_list hstart (by simpa using hc)]
        exact (hitems.map _).mono fun hkept => ⟨hkept.1, by omega⟩
    | noFields close =>
      intro _ _
      cases most with
      | zero => exact .tooDeep (by omega)
      | succ most =>
        refine .inl ?_
        simp only [readValue, Nat.succ_ne_zero, if_false, close.skipSpace_eq_cons (by decide)]
    | object space more =>
      intro hfuel _
      cases most with
      | zero => exact .tooDeep (by omega)
      | succ most =>
        have hle := space.length_le
        have hfields := ih more most (by simp at hfuel; omega) []
        have hstart := more.skipSpace_eq space
        obtain ⟨c, tail, rfl, _, _, hc⟩ := more.head
        rw [readValue_object hstart (by simpa using hc)]
        exact (hfields.map _).mono fun hkept => ⟨hkept.1, by omega⟩
    | lastItem first close =>
      intro hfuel
      refine (ih first most (by omega) (close.ends (ends_of_cons (by simp)))).bind fun _ => ?_
      simp only [close.skipSpace_eq_cons (by decide : ¬ isSpace ']')]
      exact .inl rfl
    | nextItem first comma space more =>
      intro hfuel
      refine (ih first most (by omega) (comma.ends (ends_of_cons (by simp)))).bind fun hitem => ?_
      have hstop := length_le_of_readValue hitem
      have hcomma := comma.length_le
      have hspace := space.length_le
      simp only [comma.skipSpace_eq_cons (by decide : ¬ isSpace ','), more.skipSpace_eq space]
      exact (ih more most (by simp at hcomma; omega)).bind fun _ => .inl rfl
    | lastField quoted colon space first close =>
      intro hfuel before
      have hname := length_le_of_quotedText quoted
      have hcolon := colon.length_le
      have hspace := space.length_le
      simp only [readFields, readText_eq_ok_iff.mpr quoted, bind, Except.bind,
        colon.skipSpace_eq_cons (by decide : ¬ isSpace ':'), first.skipSpace_eq space]
      refine (ih first most (by simp at hfuel hcolon; omega)
        (close.ends (ends_of_cons (by simp)))).bind fun _ => ?_
      simp only [close.skipSpace_eq_cons (by decide : ¬ isSpace '\x7d')]
      exact .inl rfl
    | nextField quoted colon space first comma gap more =>
      intro hfuel before
      have hname := length_le_of_quotedText quoted
      have hcolon := colon.length_le
      have hspace := space.length_le
      simp only [readFields, readText_eq_ok_iff.mpr quoted, bind, Except.bind,
        colon.skipSpace_eq_cons (by decide : ¬ isSpace ':'), first.skipSpace_eq space]
      refine (ih first most (by simp at hfuel hcolon; omega)
        (comma.ends (ends_of_cons (by simp)))).bind fun hvalue => ?_
      have hlast := length_le_of_readValue hvalue
      have hcomma := comma.length_le
      have hgap := gap.length_le
      simp only [comma.skipSpace_eq_cons (by decide : ¬ isSpace ','), more.skipSpace_eq gap]
      exact ih more most (by simp at hfuel hcolon hcomma; omega) _

theorem SpellsWith.finds {longest most : Nat} {text : String} {value : Value}
    (h : SpellsWith lone longest depth text value) :
    Finds (longest ≤ 4300 ∧ depth ≤ most) (readWith lone most text) value := by
  obtain ⟨start, stop, space, denotes, last⟩ := h
  have hle := space.length_le
  rw [readWith, denotes.skipSpace_eq space]
  refine (denotes.found (2 * text.toList.length + 2) most (by omega) (last.ends ends_nil)).bind
    fun _ => .inl ?_
  dsimp only
  rw [last.skipSpace_eq (by simp)]
  rfl

theorem readWith_eq_ok_iff {text : String} {value : Value} :
    readWith lone depth text = .ok value ↔ SpellsWith lone 4300 depth text value := by
  constructor
  · intro h
    obtain ⟨⟨found, stop⟩, hread, h⟩ := Steps.bind_eq_ok_iff.mp h
    dsimp only at h
    split at h
    · rename_i hstop
      cases h
      exact ⟨_, stop, spaces_skipSpace _, (fuelSound lone _).value hread,
        spaces_of_skipSpace (List.isEmpty_iff.mp hstop)⟩
    · cases h
  · intro h
    exact h.finds.resolve_right fun ⟨hkept, _⟩ => hkept ⟨Nat.le_refl _, Nat.le_refl _⟩

end Complete

section Read
variable {longest depth : Nat} {text : String} {value : Value}

theorem Denotes.of_none {piece : Piece} {text rest : List Char} (lone : Option Char)
    (h : Denotes none longest depth piece text rest) : Denotes lone longest depth piece text rest := by
  induction h with
  | null => exact .null
  | boolTrue => exact .boolTrue
  | boolFalse => exact .boolFalse
  | nan => exact .nan
  | number h => exact .number h
  | text quoted => exact .text (quoted.of_none lone)
  | noItems close => exact .noItems close
  | list space _ ih => exact .list space ih
  | noFields close => exact .noFields close
  | object space _ ih => exact .object space ih
  | lastItem _ close ih => exact .lastItem ih close
  | nextItem _ comma space _ ih more => exact .nextItem ih comma space more
  | lastField quoted colon space _ close ih => exact .lastField (quoted.of_none lone) colon space ih close
  | nextField quoted colon space _ comma gap _ ih more =>
    exact .nextField (quoted.of_none lone) colon space ih comma gap more

theorem SpellsWithin.spellsWith (h : SpellsWithin longest depth text value) (lone : Option Char) :
    SpellsWith lone longest depth text value := by
  obtain ⟨start, stop, space, denotes, last⟩ := h
  exact ⟨start, stop, space, denotes.of_none lone, last⟩

theorem read_eq (h : SpellsWith (some placeholder) 4300 depth text value) :
    read depth text = (readWith none depth text).mapError fun _ => .unpaired := by
  rw [read, readWith_eq_ok_iff.mpr h]
  rfl

theorem read_eq_ok_iff : read depth text = .ok value ↔ SpellsWithin 4300 depth text value := by
  constructor
  · intro h
    obtain ⟨_, _, h⟩ := Steps.bind_eq_ok_iff.mp h
    exact readWith_eq_ok_iff.mp (Steps.mapError_eq_ok_iff.mp h)
  · intro h
    rw [read_eq (h.spellsWith _), readWith_eq_ok_iff.mpr h]
    rfl

theorem read_eq_unpaired_iff : read depth text = .error .unpaired ↔ SpellsHalves 4300 depth text := by
  constructor
  · intro h
    have hnone : ¬ ∃ value, SpellsWithin 4300 depth text value := by
      rintro ⟨value, hspells⟩
      rw [read_eq_ok_iff.mpr hspells] at h
      cases h
    rcases Steps.bind_eq_error_iff.mp h with hread | ⟨value, hread, -⟩
    · exact absurd hread (readWith_ne_unpaired placeholder)
    · exact ⟨⟨value, readWith_eq_ok_iff.mp hread⟩, hnone⟩
  · rintro ⟨⟨value, hspells⟩, hnone⟩
    rw [read_eq hspells]
    cases hread : readWith none depth text with
    | ok value => exact absurd ⟨value, readWith_eq_ok_iff.mp hread⟩ hnone
    | error fault => rfl

theorem not_spells_of_malformed (h : read depth text = .error .malformed) :
    ¬ ∃ value, Spells text value := by
  have hmalformed : readWith (some placeholder) depth text = .error .malformed := by
    rcases Steps.bind_eq_error_iff.mp h with h | ⟨_, _, h⟩
    · exact h
    · cases hread : readWith none depth text <;> rw [hread] at h <;> cases h
  rintro ⟨value, longest, most, hspells⟩
  rcases @SpellsWith.finds _ _ _ depth _ _ hspells with hread | ⟨-, fault, hread, hlimit⟩
  · rw [hmalformed] at hread
    cases hread
  · rw [hmalformed] at hread
    cases hread
    exact hlimit

end Read

end GridQuery.Json
