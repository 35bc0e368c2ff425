import GridQuery.Proofs.Text.Percent

/-!
# Escapes in a text

Percent encoding gives a text that stands for the one that was encoded.  Any text stands for itself if
and only if it holds no escape, since an escape is longer than what it stands for.
-/

namespace GridQuery.Text.Percent

def escape (b : UInt8) : List Char :=
  ['%', (Nat.digitChar (b.toNat / 16)).toUpper, (Nat.digitChar (b.toNat % 16)).toUpper]

/-- A text with its characters in percent encoding, all but plain ones. -/
def encode (plain : Char → Bool) (text : List Char) : List Char :=
  text.flatMap fun c => if plain c then [c] else (String.utf8EncodeChar c).flatMap escape

/-- No percent sign of a text has the digits of a byte behind it. -/
def Unescaped (text : List Char) : Prop :=
  ∀ before high low after, text = before ++ '%' :: high :: low :: after → byte? high low = none

variable {plain : Char → Bool} {c d high low : Char} {b : UInt8} {text rest : List Char}
  {code count : Nat} {bytes others : List UInt8} {list : List Part} {pending : Option Utf8.Pending}

theorem byte?_digits (b : UInt8) : byte? (Nat.digitChar (b.toNat / 16)).toUpper
    (Nat.digitChar (b.toNat % 16)).toUpper = some b := by
  have hdigit : ∀ d < 16, hexDigit? (Nat.digitChar d).toUpper = some d := by decide
  have hlt := b.toNat_lt
  have hsum : 16 * (b.toNat / 16) + b.toNat % 16 = b.toNat := by omega
  simp only [byte?, hdigit (b.toNat / 16) (by omega), hdigit (b.toNat % 16) (by omega),
    Option.bind_eq_bind, Option.bind_some, hsum, UInt8.ofNat_toNat, Option.pure_def]

theorem byte?_eq_some (h : byte? high low = some b) :
    (∃ d, hexDigit? high = some d) ∧ ∃ d, hexDigit? low = some d := by
  simp only [byte?, Option.bind_eq_bind, Option.bind_eq_some_iff] at h
  obtain ⟨d, hhigh, e, hlow, _⟩ := h
  exact ⟨⟨d, hhigh⟩, e, hlow⟩

theorem parts_escape (h : byte? high low = some b) (rest : List Char) :
    parts ('%' :: high :: low :: rest) = .byte b :: parts rest := by rw [parts, h]

theorem parts_append (hc : hexDigit? c = none) (before rest : List Char) :
    parts (before ++ c :: rest) = parts before ++ parts (c :: rest) := by
  have hnone (h : ∃ d, hexDigit? c = some d) : False := by
    obtain ⟨d, hd⟩ := h
    rw [hc] at hd
    cases hd
  induction before using parts.induct with
  | case1 high low more b hbyte ih =>
    rw [parts_escape hbyte, List.cons_append, List.cons_append, List.cons_append,
      parts_escape hbyte, ih, List.cons_append]
  | case2 high low more hbyte ih =>
    rw [parts, hbyte, List.cons_append, parts_cons, ih, List.cons_append]
    intro _ other next behind heq
    cases heq
    exact hbyte
  | case3 d more hshape ih =>
    rw [parts, List.cons_append, parts_cons, ih, List.cons_append]
    · intro hd high low behind heq
      cases hbyte : byte? high low with
      | none => rfl
      | some b =>
        obtain ⟨hhigh, hlow⟩ := byte?_eq_some hbyte
        cases more with
        | nil =>
          cases heq
          exact (hnone hhigh).elim
        | cons first more =>
          cases more with
          | nil =>
            cases heq
            exact (hnone hlow).elim
          | cons second more => exact (hshape first second more hd rfl).elim
    · exact hshape
  | case4 => rfl

theorem parts_ne_nil (h : text ≠ []) : parts text ≠ [] := by
  cases text using parts.induct with
  | case1 high low more b hbyte => simp [parts_escape hbyte]
  | case2 high low more hbyte => simp [parts, hbyte]
  | case3 c more hshape =>
    rw [parts]
    · exact List.cons_ne_nil _ _
    · exact hshape
  | case4 => exact absurd rfl h

theorem parts_escapes (bytes : List UInt8) (rest : List Char) :
    parts (bytes.flatMap escape ++ rest) = bytes.map .byte ++ parts rest := by
  induction bytes with
  | nil => rfl
  | cons b bytes ih =>
    rw [List.flatMap_cons, List.append_assoc, List.map_cons, List.cons_append, ← ih]
    exact parts_escape (byte?_digits b) _

theorem parts_encode (hplain : plain '%' = false) (text : List Char) :
    (parts (encode plain text)).flatMap Part.bytes = text.flatMap String.utf8EncodeChar := by
  induction text with
  | nil => rfl
  | cons c text ih =>
    rw [encode, List.flatMap_cons, List.flatMap_cons, ← ih, encode]
    split
    · rename_i hc
      have hne : c ≠ '%' := by
        intro heq
        rw [heq, hplain] at hc
        cases hc
      rw [List.singleton_append, parts_cons fun heq => absurd heq hne, List.flatMap_cons, Part.bytes]
    · rw [parts_escapes, List.flatMap_append, List.flatMap_map]
      congr 1
      exact List.flatMap_singleton' _

theorem flatMap_bytes_char (chars : List Char) :
    (chars.map Part.char).flatMap Part.bytes = chars.flatMap String.utf8EncodeChar := by
  rw [List.flatMap_map]
  rfl

theorem Unescaped.tail (h : Unescaped (c :: text)) : Unescaped text := by
  intro before high low after heq
  exact h (c :: before) high low after (by rw [heq, List.cons_append])

theorem Unescaped.parts_eq (h : Unescaped text) : parts text = text.map .char := by
  induction text with
  | nil => rfl
  | cons c text ih =>
    rw [parts_cons, ih h.tail, List.map_cons]
    intro hc high low more heq
    exact h [] high low more (by rw [hc, heq, List.nil_append])

theorem length_bytes_le (text : List Char) : ((parts text).flatMap Part.bytes).length ≤
    (text.flatMap String.utf8EncodeChar).length := by
  have hcons (c : Char) (bytes : List UInt8) :
      bytes.length < (String.utf8EncodeChar c ++ bytes).length := by
    rw [List.length_append, String.length_utf8EncodeChar]
    have hsize := c.utf8Size_pos
    omega
  induction text using parts.induct with
  | case1 high low more b hbyte ih =>
    rw [parts_escape hbyte, List.flatMap_cons, List.flatMap_cons, List.flatMap_cons,
      List.flatMap_cons, Part.bytes, List.singleton_append, List.length_cons]
    have hlow := hcons low (more.flatMap String.utf8EncodeChar)
    have hhigh := hcons high (String.utf8EncodeChar low ++ more.flatMap String.utf8EncodeChar)
    have hsign := hcons '%' (String.utf8EncodeChar high ++
      (String.utf8EncodeChar low ++ more.flatMap String.utf8EncodeChar))
    omega
  | case2 high low more hbyte ih =>
    rw [parts, hbyte, List.flatMap_cons, List.flatMap_cons, Part.bytes, List.length_append,
      List.length_append]
    omega
  | case3 c more hshape ih =>
    rw [parts]
    · rw [List.flatMap_cons, List.flatMap_cons, Part.bytes, List.length_append, List.length_append]
      omega
    · exact hshape
  | case4 => exact Nat.le_refl _

theorem bytes_eq_iff : (parts text).flatMap Part.bytes = text.flatMap String.utf8EncodeChar ↔
    Unescaped text := by
  constructor
  · intro h before high low after heq
    cases hbyte : byte? high low with
    | none => rfl
    | some b =>
      have hbefore := length_bytes_le before
      have hafter := length_bytes_le after
      have hlength := congrArg List.length h
      rw [heq, parts_append (by decide), parts_escape hbyte, List.flatMap_append, List.flatMap_cons,
        Part.bytes, List.flatMap_append, List.flatMap_cons, List.flatMap_cons, List.flatMap_cons]
        at hlength
      simp only [List.length_append, List.length_cons, List.length_nil,
        String.length_utf8EncodeChar] at hlength
      have hhigh := high.utf8Size_pos
      have hlow := low.utf8Size_pos
      have hsign := '%'.utf8Size_pos
      omega
  · intro h
    rw [h.parts_eq, flatMap_bytes_char]

theorem settle_cases (result : Utf8.Start) :
    (settle result).1 ≠ [] ∨ (settle result).2 ≠ none := by
  cases result with
  | pending _ => exact Or.inr (Option.some_ne_none _)
  | _ => exact Or.inl (List.cons_ne_nil _ _)

theorem step_cases (pending : Option Utf8.Pending) (b : UInt8) :
    (step pending b).1 ≠ [] ∨ (step pending b).2 ≠ none := by
  unfold step
  split
  · split
    · exact settle_cases _
    · exact Or.inl (List.cons_ne_nil _ _)
  · exact settle_cases _

theorem characters_ne_nil (h : pending ≠ none ∨ list ≠ []) : characters pending list ≠ [] := by
  induction list generalizing pending with
  | nil =>
    cases pending with
    | none => simp at h
    | some p => exact List.cons_ne_nil _ _
  | cons part list ih =>
    cases part with
    | char c => simp [characters]
    | byte b =>
      rw [characters]
      rcases step_cases pending b with hout | hpending
      · exact List.append_ne_nil_of_left_ne_nil hout _
      · exact List.append_ne_nil_of_right_ne_nil _ (ih (Or.inl hpending))

theorem following_of_bytes
    (h : list.flatMap Part.bytes = Utf8.following count code ++ bytes) :
    ∃ more, list = (Utf8.following count code).map .byte ++ more ∧
      more.flatMap Part.bytes = bytes := by
  induction count generalizing list with
  | zero => exact ⟨list, rfl, h⟩
  | succ count ih =>
    rw [Utf8.following, List.cons_append] at h
    cases list with
    | nil => cases h
    | cons part list =>
      rw [List.flatMap_cons] at h
      cases part with
      | char d =>
        have hmalformed : Utf8.start (UInt8.ofNat (0x80 + code / 64 ^ count % 64)) = .malformed := by
          apply Utf8.start_of_none <;> rw [Utf8.toNat_sixBits] <;> omega
        rw [Part.bytes] at h
        rcases Utf8.start_of_encode d with ⟨b, hencode, hstart⟩ | ⟨b, p, hencode, hstart, _⟩ <;>
        · rw [hencode, List.cons_append] at h
          rw [(List.cons.inj h).1, hmalformed] at hstart
          cases hstart
      | byte b =>
        obtain ⟨hb, hbehind⟩ := List.cons.inj h
        obtain ⟨more, hmore, hbytes⟩ := ih hbehind
        refine ⟨more, ?_, hbytes⟩
        rw [hb, hmore, Utf8.following, List.map_cons, List.cons_append]

theorem encode_append_inj
    (h : String.utf8EncodeChar c ++ bytes = String.utf8EncodeChar d ++ others) :
    c = d ∧ bytes = others := by
  have hread := congrArg (fun bytes => characters none (bytes.map .byte)) h
  simp only [List.map_append, characters_encode] at hread
  obtain rfl : c = d := Option.some.inj (List.cons.inj hread).1
  exact ⟨rfl, List.append_cancel_left h⟩

theorem exists_encode_eq (c : Char) :
    ∃ b count, String.utf8EncodeChar c = b :: Utf8.following count c.toNat := by
  rcases Utf8.start_of_encode c with ⟨b, hencode, _⟩ | ⟨b, p, hencode, _⟩
  · exact ⟨b, 0, hencode⟩
  · exact ⟨b, _, hencode⟩

/-- Where the bytes of a character are, it stands for itself, or else all of them are escapes. -/
theorem cases_of_bytes (h : list.flatMap Part.bytes = String.utf8EncodeChar c ++ bytes) :
    ∃ more, more.flatMap Part.bytes = bytes ∧
      (list = .char c :: more ∨ list = (String.utf8EncodeChar c).map .byte ++ more) := by
  cases list with
  | nil =>
    obtain ⟨b, count, hencode⟩ := exists_encode_eq c
    rw [hencode] at h
    cases h
  | cons part list =>
    rw [List.flatMap_cons] at h
    cases part with
    | char d =>
      obtain ⟨rfl, hbehind⟩ := encode_append_inj h
      exact ⟨list, hbehind, Or.inl rfl⟩
    | byte b =>
      obtain ⟨first, count, hencode⟩ := exists_encode_eq c
      rw [hencode] at h ⊢
      obtain ⟨hfirst, hbehind⟩ := List.cons.inj h
      obtain ⟨more, hmore, hbytes⟩ := following_of_bytes hbehind
      refine ⟨more, hbytes, Or.inr ?_⟩
      rw [hfirst, hmore, List.map_cons, List.cons_append]

end GridQuery.Text.Percent
