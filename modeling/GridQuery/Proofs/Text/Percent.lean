import GridQuery.Proofs.Text.Utf8
import GridQuery.Text.Percent

/-!
# What an encoded text stands for

A character that stands for itself counts as the bytes in which it is encoded.  A text stands for those
characters whose encoding its bytes are, and for none if there are no such characters.
-/

namespace GridQuery.Text.Percent
open Utf8

def Part.bytes : Part → List UInt8
  | .char c => String.utf8EncodeChar c
  | .byte b => [b]

variable {c : Char} {b : UInt8} {code : Nat} {p : Pending} {pending : Option Pending}
  {rest : List Part} {bytes : List UInt8} {chars : List Char}

theorem characters_of_accepts (h : p.accepts b) : characters (some p) (.byte b :: rest) =
    (settle (p.next b)).1 ++ characters (settle (p.next b)).2 rest := by
  rw [characters, step, if_pos h]

/-- A byte that cannot come next cuts off a character, and starts the next one. -/
theorem characters_of_not_accepts (h : ¬ p.accepts b) : characters (some p) (.byte b :: rest) =
    none :: characters none (.byte b :: rest) := by
  rw [characters, step, if_neg h]
  rfl

theorem characters_following (hnarrow : p.Narrow) (hfits : p.Fits code) :
    characters (some p) ((following (p.more + 1) code).map .byte ++ rest) =
      some (Char.ofNat code) :: characters none rest := by
  -- by the bytes that are still missing: each is accepted, and the code fits behind it again
  induction hmore : p.more generalizing p with
  | zero =>
    rw [following, following, List.map_singleton, List.singleton_append, ← hmore,
      characters_of_accepts (accepts_of_fits hfits)]
    rcases next_cases hnarrow (accepts_of_fits hfits) with ⟨_, last, hnext, hlast⟩ | ⟨q, _, hq, _⟩
    · rw [hnext, (hlast code).mpr ⟨hfits, rfl⟩]
      rfl
    · omega
  | succ more ih =>
    rw [following, List.map_cons, List.cons_append, ← hmore,
      characters_of_accepts (accepts_of_fits hfits)]
    rcases next_cases hnarrow (accepts_of_fits hfits) with ⟨hzero, _⟩ | ⟨q, hnext, hq, hfitsNext⟩
    · omega
    · obtain rfl : q.more = more := by omega
      rw [hnext, hmore]
      exact ih (narrow_of_next hnext) ((hfitsNext code).mpr ⟨hfits, rfl⟩) rfl

theorem characters_encode (c : Char) (rest : List Part) :
    characters none ((String.utf8EncodeChar c).map .byte ++ rest) =
      some c :: characters none rest := by
  rcases start_of_encode c with ⟨b, hencode, hstart⟩ | ⟨b, p, hencode, hstart, hfits⟩
  · rw [hencode, List.map_singleton, List.singleton_append, characters, step, hstart]
    rfl
  · rw [hencode, List.map_cons, List.cons_append, characters, step, hstart, settle,
      characters_following (narrow_of_start hstart) hfits, Char.ofNat_toNat]
    rfl

theorem characters_char (hnarrow : ∀ p ∈ pending, p.Narrow) (c : Char) (rest : List Part) :
    characters pending (.char c :: rest) =
      characters pending ((String.utf8EncodeChar c).map .byte ++ rest) := by
  cases pending with
  | none => exact (characters_encode c rest).symm
  | some p =>
    have hfirst : ∃ b more, String.utf8EncodeChar c = b :: more ∧ ¬ p.accepts b := by
      rcases start_of_encode c with ⟨b, hencode, hstart⟩ | ⟨b, _, hencode, hstart, _⟩ <;>
      · refine ⟨b, _, hencode, fun haccepts => ?_⟩
        rw [start_of_accepts (hnarrow p rfl) haccepts] at hstart
        exact absurd hstart Start.noConfusion
    obtain ⟨b, more, hencode, haccepts⟩ := hfirst
    have hrest := characters_encode c rest
    rw [hencode, List.map_cons, List.cons_append] at hrest ⊢
    rw [characters_of_not_accepts haccepts, hrest]
    rfl

theorem narrow_of_settle {result : Start} (h : ∀ q, result = .pending q → q.Narrow) :
    ∀ p ∈ (settle result).2, p.Narrow := by
  cases result with
  | pending q =>
    rintro p ⟨⟩
    exact h q rfl
  | _ => exact nofun

theorem narrow_of_step : ∀ p ∈ (step pending b).2, p.Narrow := by
  unfold step
  split
  · split
    · exact narrow_of_settle fun _ => narrow_of_next
    · exact narrow_of_settle fun _ => narrow_of_start
  · exact narrow_of_settle fun _ => narrow_of_start

theorem characters_eq_bytes (hnarrow : ∀ p ∈ pending, p.Narrow) (parts : List Part) :
    characters pending parts = characters pending ((parts.flatMap Part.bytes).map .byte) := by
  induction parts generalizing pending with
  | nil => rfl
  | cons part parts ih =>
    rw [List.flatMap_cons, List.map_append]
    cases part with
    | char c =>
      rw [Part.bytes, ← characters_char hnarrow, characters, characters, ih (by simp)]
    | byte b =>
      rw [characters, ih narrow_of_step]
      rfl

theorem exists_of_characters_some (hnarrow : p.Narrow)
    (h : characters (some p) (bytes.map .byte) = chars.map some) :
    ∃ code rest more, p.Fits code ∧ bytes = following (p.more + 1) code ++ rest ∧
      chars = Char.ofNat code :: more ∧ characters none (rest.map .byte) = more.map some := by
  induction bytes generalizing p with
  | nil => cases chars <;> cases h
  | cons b bytes ih =>
    by_cases haccepts : p.accepts b
    · rw [List.map_cons, characters_of_accepts haccepts] at h
      rcases next_cases hnarrow haccepts with ⟨hmore, code, hnext, hlast⟩ | ⟨q, hnext, hmore, hfits⟩
      · rw [hnext] at h
        cases chars with
        | nil => cases h
        | cons c chars =>
          obtain ⟨hchar, hrest⟩ := List.cons.inj h
          obtain ⟨hfits, hbyte⟩ := (hlast code).mp rfl
          refine ⟨code, bytes, chars, hfits, ?_, ?_, hrest⟩
          · rw [following, hbyte, hmore]
            rfl
          · rw [Option.some.inj hchar]
      · rw [hnext] at h
        obtain ⟨code, rest, more, hcode, hbytes, hchars, hrest⟩ := ih (narrow_of_next hnext) h
        obtain ⟨hcode, hbyte⟩ := (hfits code).mp hcode
        refine ⟨code, rest, more, hcode, ?_, hchars, hrest⟩
        rw [following, hbyte, hmore, hbytes, List.cons_append]
    · rw [List.map_cons, characters_of_not_accepts haccepts] at h
      cases chars <;> cases h

theorem exists_of_characters_none (h : characters none ((b :: bytes).map .byte) = chars.map some) :
    ∃ c rest more, b :: bytes = String.utf8EncodeChar c ++ rest ∧ chars = c :: more ∧
      characters none (rest.map .byte) = more.map some := by
  rw [List.map_cons, characters, step] at h
  cases hstart : start b with
  | char c =>
    rw [hstart] at h
    cases chars with
    | nil => cases h
    | cons d chars =>
      obtain ⟨hchar, hrest⟩ := List.cons.inj h
      refine ⟨c, bytes, chars, ?_, by rw [Option.some.inj hchar], hrest⟩
      rw [encode_of_start_char hstart]
      rfl
  | malformed =>
    rw [hstart] at h
    cases chars <;> cases h
  | pending p =>
    rw [hstart] at h
    obtain ⟨code, rest, more, hfits, hbytes, hchars, hrest⟩ :=
      exists_of_characters_some (narrow_of_start hstart) h
    obtain ⟨c, rfl, hencode⟩ := encode_of_start_pending hstart hfits
    refine ⟨c, rest, more, ?_, by rw [hchars, Char.ofNat_toNat], hrest⟩
    rw [hencode, hbytes, List.cons_append]

theorem characters_bytes_iff :
    characters none (bytes.map .byte) = chars.map some ↔
      bytes = chars.flatMap String.utf8EncodeChar := by
  constructor
  · intro h
    induction chars generalizing bytes with
    | nil =>
      cases bytes with
      | nil => rfl
      | cons b bytes =>
        obtain ⟨_, _, _, _, hchars, _⟩ := exists_of_characters_none h
        cases hchars
    | cons c chars ih =>
      cases bytes with
      | nil => cases h
      | cons b bytes =>
        obtain ⟨d, rest, more, hbytes, hchars, hrest⟩ := exists_of_characters_none h
        obtain ⟨rfl, rfl⟩ := List.cons.inj hchars
        rw [hbytes, ih hrest, List.flatMap_cons]
  · rintro rfl
    induction chars with
    | nil => rfl
    | cons c chars ih =>
      rw [List.flatMap_cons, List.map_append, characters_encode, ih, List.map_cons]

theorem mapM_id_eq_some_iff {α : Type} {options : List (Option α)} {values : List α} :
    options.mapM id = some values ↔ options = values.map some := by
  induction options generalizing values with
  | nil => cases values <;> simp
  | cons option options ih =>
    cases option with
    | none => cases values <;> simp
    | some value =>
      simp only [List.mapM_cons, id_eq, Option.bind_eq_bind, Option.bind_some,
        Option.bind_eq_some_iff, ih, Option.pure_def, Option.some.injEq]
      constructor
      · rintro ⟨more, rfl, rfl⟩
        rfl
      · intro h
        cases values with
        | nil => cases h
        | cons head values =>
          obtain ⟨hvalue, hrest⟩ := List.cons.inj h
          exact ⟨values, hrest, by rw [Option.some.inj hvalue]⟩

theorem decode?_eq_some_iff {text : List Char} :
    decode? text = some chars ↔
      (parts text).flatMap Part.bytes = chars.flatMap String.utf8EncodeChar := by
  rw [decode?, mapM_id_eq_some_iff, characters_eq_bytes (by simp), characters_bytes_iff]

section Parts
variable {text rest : List Char}

/-- A character stands for itself if it is not a percent sign with the digits of a byte behind it. -/
theorem parts_cons (h : c = '%' → ∀ high low more, rest = high :: low :: more → byte? high low = none) :
    parts (c :: rest) = .char c :: parts rest := by
  by_cases hshape : ∃ high low more, c = '%' ∧ rest = high :: low :: more
  · obtain ⟨high, low, more, rfl, rfl⟩ := hshape
    rw [parts, h rfl high low more rfl]
  · rw [parts]
    intro high low more hc hrest
    exact hshape ⟨high, low, more, hc, hrest⟩

theorem parts_append_of_not_mem (h : '%' ∉ text) (rest : List Char) :
    parts (text ++ rest) = text.map .char ++ parts rest := by
  induction text with
  | nil => rfl
  | cons c text ih =>
    obtain ⟨hc, htext⟩ := List.ne_and_not_mem_of_not_mem_cons h
    rw [List.cons_append, parts_cons fun heq => absurd heq.symm hc, ih htext, List.map_cons,
      List.cons_append]

theorem parts_of_not_mem (h : '%' ∉ text) : parts text = text.map .char := by
  have hparts := parts_append_of_not_mem h []
  rwa [List.append_nil, parts, List.append_nil] at hparts

end Parts

end GridQuery.Text.Percent
