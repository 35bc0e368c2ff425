import GridQuery.Proofs.Json.Numerals
import GridQuery.Proofs.Json.Texts
import GridQuery.Proofs.Obstacle

/-!
# Written JSON spells its value

Each character of a text is written so that its UTF-16 units are read back, and what is written for a
value denotes that value, whatever stands behind it.  More generally, what comes of it by a rewriting
that touches only the quoted texts denotes the value with other texts.
-/

namespace GridQuery.Json
variable {c : Char} {units : List Nat} {text rest : List Char}

def unitsOf (c : Char) : List Nat :=
  if c.toNat < 0x10000 then [c.toNat]
  else [0xd800 + (c.toNat - 0x10000) / 0x400, 0xdc00 + (c.toNat - 0x10000) % 0x400]

theorem not_surrogate (c : Char) : isHigh c.toNat = false ∧ isLow c.toNat = false := by
  have hcode : c.toNat < 0xd800 ∨ 0xdfff < c.toNat ∧ c.toNat < 0x110000 := c.valid
  simp only [isHigh, isLow, Bool.and_eq_false_iff, decide_eq_false_iff_not]
  omega

/-- The code of a character is read as that character, also where units are expected. -/
theorem joinUnits_code (lone : Option Char) (c : Char) (units : List Nat) :
    joinUnits lone (c.toNat :: units) = (joinUnits lone units).map (c :: ·) := by
  obtain ⟨hhigh, hlow⟩ := not_surrogate c
  have hchar : unitChar? lone c.toNat = some c := by
    rw [unitChar?, hhigh, hlow, Bool.or_false, if_neg Bool.false_ne_true, Char.ofNat_toNat]
  cases units with
  | nil =>
    rw [joinUnits, hchar]
    rfl
  | cons unit units =>
    rw [joinUnits, hhigh, Bool.false_and, if_neg Bool.false_ne_true, hchar, Option.bind_some]

theorem joinUnits_unitsOf (lone : Option Char) (c : Char) (units : List Nat) :
    joinUnits lone (unitsOf c ++ units) = (joinUnits lone units).map (c :: ·) := by
  unfold unitsOf
  split
  · exact joinUnits_code lone c units
  · rename_i hbig
    have hcode : c.toNat < 0xd800 ∨ 0xdfff < c.toNat ∧ c.toNat < 0x110000 := c.valid
    have hhigh : isHigh (0xd800 + (c.toNat - 0x10000) / 0x400) = true := by
      simp only [isHigh, Bool.and_eq_true, decide_eq_true_eq]
      omega
    have hlow : isLow (0xdc00 + (c.toNat - 0x10000) % 0x400) = true := by
      simp only [isLow, Bool.and_eq_true, decide_eq_true_eq]
      omega
    have hpair : 0x10000 + (0xd800 + (c.toNat - 0x10000) / 0x400 - 0xd800) * 0x400 +
        (0xdc00 + (c.toNat - 0x10000) % 0x400 - 0xdc00) = c.toNat := by omega
    rw [List.cons_append, List.singleton_append, joinUnits, hhigh, hlow, Bool.and_true, if_pos rfl,
      hpair, Char.ofNat_toNat]

theorem joinUnits_flatMap (lone : Option Char) (chars : List Char) :
    joinUnits lone (chars.flatMap unitsOf) = some chars := by
  induction chars with
  | nil => rfl
  | cons c chars ih =>
    rw [List.flatMap_cons, joinUnits_unitsOf, ih]
    rfl

theorem hexDigit?_digitChar : ∀ d < 16, Text.hexDigit? (Nat.digitChar d) = some d := by decide

theorem hexUnit?_hex {unit : Nat} (h : unit < 0x10000) :
    hexUnit? (Nat.digitChar (unit / 16 / 16 / 16 % 16)) (Nat.digitChar (unit / 16 / 16 % 16))
      (Nat.digitChar (unit / 16 % 16)) (Nat.digitChar (unit % 16)) = some unit := by
  have hdigit (n : Nat) : Text.hexDigit? (Nat.digitChar (n % 16)) = some (n % 16) :=
    hexDigit?_digitChar _ (Nat.mod_lt n (by decide))
  simp [hexUnit?, hdigit]
  omega

theorem quoted_unitEscapes {escaped : List Nat} (h : ∀ unit ∈ escaped, unit < 0x10000)
    (more : Quoted units text rest) :
    Quoted (escaped ++ units) (escaped.flatMap unitEscape ++ text) rest := by
  induction escaped with
  | nil => exact more
  | cons unit escaped ih =>
    obtain ⟨hunit, hescaped⟩ := List.forall_mem_cons.mp h
    rw [List.flatMap_cons, List.append_assoc]
    exact .hex (hexUnit?_hex hunit) (ih hescaped)

theorem unitsOf_lt (c : Char) : ∀ unit ∈ unitsOf c, unit < 0x10000 := by
  have hcode : c.toNat < 0xd800 ∨ 0xdfff < c.toNat ∧ c.toNat < 0x110000 := c.valid
  unfold unitsOf
  split
  · simpa
  · simp only [List.mem_cons, List.not_mem_nil, or_false]
    omega

theorem escapedChar_cases (c : Char) :
    (c.toNat < 0x10000 ∧ ∃ escape, shortEscape? escape = some c.toNat ∧
      escapedChar c = ['\\', escape]) ∨
    (0x20 ≤ c.toNat ∧ c.toNat < 0x10000 ∧ c ≠ '"' ∧ c ≠ '\\' ∧ escapedChar c = [c]) ∨
    escapedChar c = (unitsOf c).flatMap unitEscape := by
  by_cases hshort : c ∈ ['"', '\\', '\n', '\r', '\t', Char.ofNat 8, Char.ofNat 12]
  · left
    simp only [List.mem_cons, List.not_mem_nil, or_false] at hshort
    rcases hshort with rfl | rfl | rfl | rfl | rfl | rfl | rfl
    · exact ⟨by decide, '"', rfl, rfl⟩
    · exact ⟨by decide, '\\', rfl, rfl⟩
    · exact ⟨by decide, 'n', rfl, rfl⟩
    · exact ⟨by decide, 'r', rfl, rfl⟩
    · exact ⟨by decide, 't', rfl, rfl⟩
    · exact ⟨by decide, 'b', rfl, rfl⟩
    · exact ⟨by decide, 'f', rfl, rfl⟩
  · right
    simp only [List.mem_cons, List.not_mem_nil, or_false, not_or] at hshort
    obtain ⟨hquote, hslash, hn, hr, ht, hb, hf⟩ := hshort
    have hcode (n : Nat) (h : c ≠ Char.ofNat n) : c.toNat ≠ n := by
      intro heq
      rw [← heq, Char.ofNat_toNat] at h
      exact h rfl
    have hescaped : escapedChar c = if 0x20 ≤ c.toNat ∧ c.toNat < 0x7f then [c]
        else (unitsOf c).flatMap unitEscape := by
      unfold escapedChar unitsOf
      rw [if_neg hquote, if_neg hslash, if_neg hn, if_neg hr, if_neg ht, if_neg (hcode 8 hb),
        if_neg (hcode 12 hf)]
      split
      · rfl
      · split
        · simp
        · simp
    rw [hescaped]
    split
    · rename_i hplain
      exact Or.inl ⟨hplain.1, by omega, hquote, hslash, rfl⟩
    · exact Or.inr rfl

theorem quoted_escapedChar (c : Char) (more : Quoted units text rest) :
    Quoted (unitsOf c ++ units) (escapedChar c ++ text) rest := by
  have hunit (h : c.toNat < 0x10000) : unitsOf c = [c.toNat] := if_pos h
  rcases escapedChar_cases c with ⟨hsmall, escape, hescape, hwritten⟩ |
    ⟨hcontrol, hsmall, hquote, hslash, hwritten⟩ | hwritten
  · rw [hwritten, hunit hsmall]
    exact .short hescape more
  · rw [hwritten, hunit hsmall]
    exact .plain (by omega) hquote hslash more
  · rw [hwritten]
    exact quoted_unitEscapes (unitsOf_lt c) more

theorem quotedText_writeText (s : String) (rest : List Char) :
    QuotedText none s (s.toList.flatMap escapedChar ++ '"' :: rest) rest := by
  refine ⟨s.toList.flatMap unitsOf, ?_, ?_⟩
  · induction s.toList with
    | nil => exact .close
    | cons c chars ih =>
      rw [List.flatMap_cons, List.flatMap_cons, List.append_assoc]
      exact quoted_escapedChar c ih
  · exact joinUnits_flatMap none s.toList

theorem spaces_refl (text : List Char) : Spaces text text := ⟨[], rfl, by simp⟩

theorem spaces_blank (text : List Char) : Spaces (' ' :: text) text :=
  ⟨[' '], rfl, by simp [isSpace]⟩

theorem writeReal_cases (x : Double) : x.isFinite ∨
    writeReal x = "NaN".toList ∧ x = .nan ∨
    writeReal x = "Infinity".toList ∧ x = .signed false .infinity ∨
    writeReal x = "-Infinity".toList ∧ x = .signed true .infinity := by
  cases x with
  | nan => exact .inr (.inl ⟨rfl, rfl⟩)
  | signed negative m =>
    by_cases hfinite : m.isFinite
    · exact .inl hfinite
    · have hrank := m.rank_le
      have htop : m = .infinity := by
        obtain ⟨rank, _⟩ := m
        rw [Magnitude.isFinite, decide_eq_true_eq, Nat.not_lt] at hfinite
        exact (Magnitude.mk.injEq ..).mpr (Nat.le_antisymm hrank hfinite)
      rw [htop]
      cases negative with
      | false => exact .inr (.inr (.inl ⟨rfl, rfl⟩))
      | true => exact .inr (.inr (.inr ⟨rfl, rfl⟩))

theorem denotes_writeReal {lone : Option Char} {longest depth : Nat} (x : Double) (rest : List Char) :
    Denotes lone longest depth (.value (.real x)) (writeReal x ++ rest) rest := by
  rcases writeReal_cases x with hfinite | ⟨hwritten, hx⟩ | ⟨hwritten, hx⟩ | ⟨hwritten, hx⟩
  · exact .number (number_writeReal hfinite rest)
  · rw [hwritten, hx]
    exact .nan
  · rw [hwritten, hx]
    exact .number .infinity
  · rw [hwritten, hx]
    exact .number .negativeInfinity

theorem not_mem_writeReal (x : Double) : '%' ∉ writeReal x := by
  rcases writeReal_cases x with hfinite | ⟨hwritten, _⟩ | ⟨hwritten, _⟩ | ⟨hwritten, _⟩
  · exact (@number_writeReal 0 x hfinite []).not_mem rfl
  · rw [hwritten]
    decide
  · rw [hwritten]
    decide
  · rw [hwritten]
    decide

def member (field : String × List Char) : List Char := writeText field.1 ++ ':' :: ' ' :: field.2

/-- A way to rewrite what is written for a value: without percent signs it stays, and of a quoted text
it makes one that spells another. -/
structure Rewriting (R : List Char → List Char → Prop) (P : String → Prop) (f : String → String) :
    Prop where
  append : ∀ {a b x y}, R a x → R b y → R (a ++ b) (x ++ y)
  plain : ∀ {a}, '%' ∉ a → R a a
  text : ∀ {s}, P s → ∃ body, R (writeText s) ('"' :: body ++ ['"']) ∧
    ∀ rest, QuotedText none (f s) (body ++ '"' :: rest) rest

section Rewritten
variable {R : List Char → List Char → Prop} {P : String → Prop} {f : String → String}
  (rewriting : Rewriting R P f)
include rewriting

theorem rewritten_member {name : String} {written chars : List Char} (hname : P name)
    (hvalue : R written chars) : ∃ body,
      R (member (name, written)) ('"' :: body ++ ['"'] ++ ([':', ' '] ++ chars)) ∧
      ∀ rest, QuotedText none (f name) (body ++ '"' :: rest) rest := by
  obtain ⟨body, hbody, hquoted⟩ := rewriting.text hname
  have hcolon := @Rewriting.plain _ _ _ rewriting [':', ' '] (by decide)
  exact ⟨body, rewriting.append hbody (rewriting.append hcolon hvalue), hquoted⟩

mutual

theorem denotes_rewritten : (value : Value) → {depth : Nat} → value.IsReadable → value.Short →
    value.depth ≤ depth → (∀ s ∈ value.texts, P s) → ∃ chars, R (write false value) chars ∧
      ∀ rest, Denotes none 4300 depth (.value (value.mapTexts f)) (chars ++ rest) rest
  | .null, _, _, _, _, _ => ⟨_, rewriting.plain (by decide), fun _ => .null⟩
  | .bool true, _, _, _, _, _ => ⟨_, rewriting.plain (by decide), fun _ => .boolTrue⟩
  | .bool false, _, _, _, _, _ => ⟨_, rewriting.plain (by decide), fun _ => .boolFalse⟩
  | .int n, _, _, short, _, _ =>
    have hnumber := number_toString short
    ⟨_, rewriting.plain ((hnumber []).not_mem rfl), fun rest => .number (hnumber rest)⟩
  | .real x, _, _, _, _, _ =>
    ⟨_, rewriting.plain (not_mem_writeReal x), fun rest => denotes_writeReal x rest⟩
  | .date _, _, readable, _, _, _ | .time _, _, readable, _, _, _ => readable.elim
  | .text s, depth, _, _, _, htexts => by
    obtain ⟨body, hbody, hquoted⟩ := rewriting.text (htexts s (List.mem_singleton_self s))
    refine ⟨_, hbody, ?_⟩
    intro rest
    have htext := @Denotes.text none 4300 depth _ _ _ (hquoted rest)
    simpa [Value.mapTexts] using htext
  | .list items, 0, _, _, hdepth, _ => absurd hdepth (Nat.not_succ_le_zero _)
  | .list [], depth + 1, _, _, _, _ =>
    ⟨_, rewriting.plain (by decide), fun _ => .noItems (spaces_refl _)⟩
  | .list (item :: items), depth + 1, readable, short, hdepth, htexts => by
    obtain ⟨chars, hchars, hitems⟩ := denotes_rewrittenItems item items readable short
      (Nat.le_of_succ_le_succ hdepth) htexts
    have hopen := rewriting.append (@Rewriting.plain _ _ _ rewriting ['['] (by decide)) hchars
    refine ⟨_, rewriting.append hopen (@Rewriting.plain _ _ _ rewriting [']'] (by decide)), ?_⟩
    intro rest
    have hlist := Denotes.list (spaces_refl _) (hitems rest)
    simpa [Value.mapTexts, Value.mapItemTexts] using hlist
  | .object fields, 0, _, _, hdepth, _ => absurd hdepth (Nat.not_succ_le_zero _)
  | .object [], depth + 1, _, _, _, _ =>
    ⟨_, rewriting.plain (by decide), fun _ => .noFields (spaces_refl _)⟩
  | .object (field :: fields), depth + 1, readable, short, hdepth, htexts => by
    obtain ⟨chars, hchars, hfields⟩ := denotes_rewrittenFields field fields readable.2 short
      (Nat.le_of_succ_le_succ hdepth) htexts
    have hopen := rewriting.append (@Rewriting.plain _ _ _ rewriting ['\x7b'] (by decide)) hchars
    refine ⟨_, rewriting.append hopen (@Rewriting.plain _ _ _ rewriting ['\x7d'] (by decide)), ?_⟩
    intro rest
    have hobject := Denotes.object (spaces_refl _) (hfields rest)
    simpa [Value.mapTexts] using hobject

theorem denotes_rewrittenItems : (item : Value) → (items : List Value) → {depth : Nat} →
    Value.ItemsReadable (item :: items) → Value.ItemsShort (item :: items) →
    Value.itemsDepth (item :: items) ≤ depth → (∀ s ∈ Value.itemTexts (item :: items), P s) →
    ∃ chars, R (", ".toList.intercalate (writeItems false (item :: items))) chars ∧
      ∀ rest, Denotes none 4300 depth (.items (Value.mapItemTexts f (item :: items)))
        (chars ++ ']' :: rest) rest
  | item, [], _, readable, short, hdepth, htexts => by
    obtain ⟨hhere, _⟩ := List.forall_mem_append.mp htexts
    obtain ⟨chars, hchars, hitem⟩ := denotes_rewritten item readable.1 short.1
      (Nat.le_trans (Nat.le_max_left _ _) hdepth) hhere
    refine ⟨chars, by simpa [writeItems] using hchars, ?_⟩
    intro rest
    exact .lastItem (hitem _) (spaces_refl _)
  | item, next :: items, _, readable, short, hdepth, htexts => by
    obtain ⟨hhere, hbehind⟩ := List.forall_mem_append.mp htexts
    obtain ⟨chars, hchars, hitem⟩ := denotes_rewritten item readable.1 short.1
      (Nat.le_trans (Nat.le_max_left _ _) hdepth) hhere
    obtain ⟨more, hmore, hitems⟩ := denotes_rewrittenItems next items readable.2 short.2
      (Nat.le_trans (Nat.le_max_right _ _) hdepth) hbehind
    have hcomma := @Rewriting.plain _ _ _ rewriting ", ".toList (by decide)
    have hwritten := rewriting.append (rewriting.append hchars hcomma) hmore
    rw [writeItems, ← List.intercalate_cons_cons] at hwritten
    refine ⟨_, hwritten, ?_⟩
    intro rest
    have hnext := Denotes.nextItem (hitem _) (spaces_refl _) (spaces_blank _) (hitems rest)
    simpa [Value.mapItemTexts] using hnext

theorem denotes_rewrittenFields : (field : String × Value) → (fields : List (String × Value)) →
    {depth : Nat} → Value.FieldsReadable (field :: fields) → Value.FieldsShort (field :: fields) →
    Value.fieldsDepth (field :: fields) ≤ depth →
    (∀ s ∈ Value.fieldTexts (field :: fields), P s) →
    ∃ chars, R (", ".toList.intercalate ((writeFields false (field :: fields)).map member)) chars ∧
      ∀ rest, Denotes none 4300 depth (.fields (Value.mapFieldTexts f (field :: fields)))
        (chars ++ '\x7d' :: rest) rest
  | (name, value), [], _, readable, short, hdepth, htexts => by
    obtain ⟨hhere, _⟩ := List.forall_mem_append.mp htexts
    obtain ⟨hname, hvalue⟩ := List.forall_mem_cons.mp hhere
    obtain ⟨chars, hchars, hvalue⟩ := denotes_rewritten value readable.1 short.1
      (Nat.le_trans (Nat.le_max_left _ _) hdepth) hvalue
    obtain ⟨body, hbody, hquoted⟩ := rewritten_member rewriting hname hchars
    refine ⟨_, by simpa [writeFields] using hbody, ?_⟩
    intro rest
    have hlast := Denotes.lastField (hquoted (':' :: ' ' :: (chars ++ '\x7d' :: rest))) (spaces_refl _)
      (spaces_blank _) (hvalue _) (spaces_refl ('\x7d' :: rest))
    simpa [Value.mapFieldTexts] using hlast
  | (name, value), (other, next) :: fields, _, readable, short, hdepth, htexts => by
    obtain ⟨hhere, hbehind⟩ := List.forall_mem_append.mp htexts
    obtain ⟨hname, hvalue⟩ := List.forall_mem_cons.mp hhere
    obtain ⟨chars, hchars, hvalue⟩ := denotes_rewritten value readable.1 short.1
      (Nat.le_trans (Nat.le_max_left _ _) hdepth) hvalue
    obtain ⟨more, hmore, hfields⟩ := denotes_rewrittenFields (other, next) fields readable.2 short.2
      (Nat.le_trans (Nat.le_max_right _ _) hdepth) hbehind
    obtain ⟨body, hbody, hquoted⟩ := rewritten_member rewriting hname hchars
    have hcomma := @Rewriting.plain _ _ _ rewriting ", ".toList (by decide)
    have hwritten := rewriting.append (rewriting.append hbody hcomma) hmore
    rw [writeFields, List.map_cons, ← List.intercalate_cons_cons] at hwritten
    refine ⟨_, hwritten, ?_⟩
    intro rest
    have hnext := Denotes.nextField (hquoted _) (spaces_refl _) (spaces_blank _) (hvalue _)
      (spaces_refl _) (spaces_blank _) (hfields rest)
    simpa [Value.mapFieldTexts] using hnext

end

end Rewritten

theorem rewriting_eq : Rewriting Eq (fun _ => True) id where
  append := by
    intro a b x y hax hby
    rw [hax, hby]
  plain := by
    intro a _
    rfl
  text := by
    intro s _
    exact ⟨_, rfl, fun rest => quotedText_writeText s rest⟩

theorem spells_write {value : Value} {depth : Nat} (readable : value.IsReadable) (short : value.Short)
    (hdepth : value.depth ≤ depth) :
    SpellsWithin 4300 depth (String.ofList (write false value)) value := by
  obtain ⟨chars, rfl, hdenotes⟩ := denotes_rewritten rewriting_eq value readable short hdepth
    fun _ _ => trivial
  have hsame : value.mapTexts id = value := (value.mapTexts_eq_self_iff readable).mpr fun _ _ => rfl
  have hdenotes := hdenotes []
  rw [List.append_nil, hsame] at hdenotes
  rw [SpellsWithin, SpellsWith, String.toList_ofList]
  exact ⟨_, [], spaces_refl _, hdenotes, spaces_refl []⟩

theorem read_write {value : Value} {depth : Nat} (readable : value.IsReadable) (short : value.Short)
    (hdepth : value.depth ≤ depth) : read depth (String.ofList (write false value)) = .ok value :=
  read_eq_ok_iff.mpr (spells_write readable short hdepth)

end GridQuery.Json
