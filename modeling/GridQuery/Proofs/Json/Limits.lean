import GridQuery.Json.Reader
import GridQuery.Proofs.Steps
import Mathlib.Data.List.TakeWhile

/-!
# Where reading JSON gives up

Whatever the reader takes off a text leaves a suffix of it.  It gives up for depth only behind as many
opening brackets as it was allowed, and for length only on as many digits as a number must not have.
Brackets that are only opened, and digits alone, make it give up.
-/

namespace GridQuery.Json

def opens (text : List Char) : Nat := text.countP fun c => c = '[' ∨ c = '\x7b'

def digitCount (text : List Char) : Nat := text.countP Text.isAsciiDigit

theorem opens_cons {c : Char} (h : c = '[' ∨ c = '\x7b') (text : List Char) :
    opens (c :: text) = opens text + 1 := by
  rw [opens, List.countP_cons_of_pos (by simpa using h)]
  rfl

/-- What a reader that may open `depth` brackets can make of a text, with a character for halves of pairs
or none. -/
def Within {α : Type} (lone : Option Char) (depth : Nat) (text : List Char) : Except ReadError (α × List Char) → Prop
  | .ok (_, rest) => rest <:+ text
  | .error (.tooDeep _) => depth < opens text
  | .error (.longNumber digits) => 4300 < digits ∧ digits ≤ digitCount text
  | .error .unpaired => lone = none
  | .error .malformed => True

namespace Within
variable {α β : Type} {lone : Option Char} {depth : Nat} {text rest : List Char} {read : Except ReadError (α × List Char)}

theorem of_suffix (hsuffix : rest <:+ text) (h : Within lone depth rest read) : Within lone depth text read := by
  cases read with
  | ok result => exact List.IsSuffix.trans h hsuffix
  | error fault =>
    cases fault with
    | tooDeep array => exact Nat.lt_of_lt_of_le h hsuffix.sublist.countP_le
    | longNumber digits => exact ⟨h.1, Nat.le_trans h.2 hsuffix.sublist.countP_le⟩
    | malformed => trivial
    | unpaired => exact h

theorem cons {c : Char} (h : Within lone depth text read) : Within lone depth (c :: text) read :=
  h.of_suffix (List.suffix_cons c text)

theorem map (f : α → β) (h : Within lone depth text read) :
    Within lone depth text (read.map fun (a, rest) => (f a, rest)) := by
  cases read with
  | ok result => exact h
  | error fault => cases fault <;> exact h

theorem bind {f : α × List Char → Except ReadError (β × List Char)} (h : Within lone depth text read)
    (hf : ∀ a rest, rest <:+ text → Within lone depth text (f (a, rest))) :
    Within lone depth text (read >>= f) := by
  cases read with
  | ok result => exact hf result.1 result.2 h
  | error fault => cases fault <;> exact h

theorem behind {c : Char} (hc : c = '[' ∨ c = '\x7b') (h : Within lone (depth - 1) text read) :
    Within lone depth (c :: text) read := by
  cases read with
  | ok result => exact List.IsSuffix.trans h (List.suffix_cons c text)
  | error fault =>
    cases fault with
    | tooDeep array =>
      have hlt : depth - 1 < opens text := h
      change depth < opens (c :: text)
      rw [opens_cons hc]
      omega
    | longNumber digits => exact ⟨h.1, Nat.le_trans h.2 (List.sublist_cons_self c text).countP_le⟩
    | malformed => trivial
    | unpaired => exact h

theorem prepend (unit : Option Nat) {read : Except ReadError (List Nat × List Char)}
    (h : Within lone depth text read) : Within lone depth text (prepend unit read) := by
  cases unit with
  | none => trivial
  | some unit => exact h.map (unit :: ·)

end Within

theorem skipSpace_suffix (text : List Char) : skipSpace text <:+ text := List.dropWhile_suffix _

theorem suffix_of_skipSpace {c : Char} {rest more text : List Char}
    (h : skipSpace rest = c :: more) (hrest : rest <:+ text) : more <:+ text := by
  have hspace := (skipSpace_suffix rest).trans hrest
  rw [h] at hspace
  exact (List.suffix_cons c more).trans hspace

theorem readUnits_within (lone : Option Char) (depth : Nat) (text : List Char) : Within lone depth text (readUnits text) := by
  induction text using readUnits.induct with
  | case1 => trivial
  | case2 rest => exact List.suffix_cons _ _
  | case3 a b c d rest ih => exact ((ih.prepend _).cons.cons.cons.cons.cons.cons)
  | case4 c rest _ ih =>
    rw [readUnits]
    · exact (ih.prepend _).cons.cons
    all_goals assumption
  | case5 c rest _ _ _ ih =>
    rw [readUnits]
    · exact (ih.prepend _).cons
    all_goals assumption

theorem eq_none_of_joinUnits {lone : Option Char} {units : List Nat} (h : joinUnits lone units = none) :
    lone = none := by
  have hchar {unit : Nat} (h : unitChar? lone unit = none) : lone = none := by
    unfold unitChar? at h
    split at h
    · exact h
    · cases h
  induction units using joinUnits.induct with
  | case1 high low rest hpair ih =>
    rw [joinUnits, if_pos hpair, Option.map_eq_none_iff] at h
    exact ih h
  | case2 high low rest hpair ih =>
    rw [joinUnits, if_neg hpair] at h
    cases hhigh : unitChar? lone high with
    | none => exact hchar hhigh
    | some c =>
      rw [hhigh, Option.bind_some, Option.map_eq_none_iff] at h
      exact ih h
  | case3 unit => exact hchar (Option.map_eq_none_iff.mp h)
  | case4 => cases h

theorem readText_within (lone : Option Char) (depth : Nat) (text : List Char) :
    Within lone depth text (readText lone text) := by
  refine (readUnits_within lone depth text).bind fun units rest hrest => ?_
  dsimp only
  split
  · exact hrest
  · rename_i hnone
    exact eq_none_of_joinUnits hnone

theorem length_digitsOf_le (text : List Char) : (digitsOf text).length ≤ digitCount text := by
  have hall : (digitsOf text).countP Text.isAsciiDigit = (digitsOf text).length :=
    List.countP_eq_length.mpr fun c hc => List.mem_takeWhile_imp hc
  rw [← hall]
  exact (List.takeWhile_prefix _).sublist.countP_le

theorem readUnsigned_within (lone : Option Char) (depth : Nat) (negative : Bool) (text : List Char) :
    Within lone depth text (readUnsigned negative text) := by
  unfold readUnsigned
  extract_lets whole behind fraction rest exponent
  have hrest : rest <:+ text := by
    unfold rest
    split
    · exact List.drop_suffix _ _
    · exact (List.drop_suffix _ _).trans (List.drop_suffix _ _)
  split
  · trivial
  · split
    · split
      · rename_i hlong
        refine ⟨hlong, ?_⟩
        unfold whole
        split
        · exact List.countP_pos_iff.mpr ⟨'0', List.mem_cons_self, rfl⟩
        · exact length_digitsOf_le text
      · exact hrest
    · exact (List.drop_suffix _ _).trans hrest

theorem readNumber_within (lone : Option Char) (depth : Nat) (text : List Char) : Within lone depth text (readNumber text) := by
  unfold readNumber
  split
  · exact (List.suffix_append ['-', 'I', 'n', 'f', 'i', 'n', 'i', 't', 'y'] _)
  · exact (List.suffix_append ['I', 'n', 'f', 'i', 'n', 'i', 't', 'y'] _)
  · exact (readUnsigned_within lone depth true _).cons
  · exact readUnsigned_within lone depth false _

/-- All readers with some fuel keep within what is there. -/
structure FuelWithin (lone : Option Char) (fuel : Nat) : Prop where
  value : ∀ depth text, Within lone depth text (readValue lone fuel depth text)
  items : ∀ depth text, Within lone depth text (readItems lone fuel depth text)
  fields : ∀ depth before text, Within lone depth text (readFields lone fuel depth before text)

namespace FuelWithin
variable {lone : Option Char} {fuel : Nat} (ih : FuelWithin lone fuel) (depth : Nat) (text : List Char)
include ih

theorem value_succ : Within lone depth text (readValue lone (fuel + 1) depth text) := by
  have none_left {c : Char} (rest : List Char) (hc : c = '[' ∨ c = '\x7b') (hdepth : depth = 0)
      (array : Bool) : Within lone depth (c :: rest)
        (.error (.tooDeep array) : Except ReadError (Value × List Char)) := by
    change depth < opens (c :: rest)
    rw [opens_cons hc]
    omega
  unfold readValue
  split
  · exact ((readText_within lone depth _).map _).cons
  · rename_i rest
    split
    · exact none_left rest (.inl rfl) ‹_› true
    · split
      · exact suffix_of_skipSpace ‹_› (List.suffix_cons _ rest)
      · exact (((ih.items (depth - 1) _).map _).of_suffix (skipSpace_suffix rest)).behind (.inl rfl)
  · rename_i rest
    split
    · exact none_left rest (.inr rfl) ‹_› false
    · split
      · exact suffix_of_skipSpace ‹_› (List.suffix_cons _ rest)
      · exact (((ih.fields (depth - 1) [] _).map _).of_suffix (skipSpace_suffix rest)).behind
          (.inr rfl)
  · exact List.suffix_append ['n', 'u', 'l', 'l'] _
  · exact List.suffix_append ['t', 'r', 'u', 'e'] _
  · exact List.suffix_append ['f', 'a', 'l', 's', 'e'] _
  · exact List.suffix_append ['N', 'a', 'N'] _
  · exact readNumber_within lone depth _

theorem items_succ : Within lone depth text (readItems lone (fuel + 1) depth text) := by
  refine (ih.value depth text).bind fun item rest hrest => ?_
  dsimp only
  split
  · exact suffix_of_skipSpace ‹_› hrest
  · rename_i more heq
    have hmore := (skipSpace_suffix more).trans (suffix_of_skipSpace heq hrest)
    exact ((ih.items depth _).map (item :: ·)).of_suffix hmore
  · trivial

theorem fields_succ (before : List (String × Value)) :
    Within lone depth text (readFields lone (fuel + 1) depth before text) := by
  unfold readFields
  dsimp only
  split
  · rename_i quoted
    refine ((readText_within lone depth quoted).bind fun name rest hrest => ?_).cons
    dsimp only
    split
    · rename_i behind heq
      refine ((ih.value depth _).bind fun value rest hrest => ?_).of_suffix
        ((skipSpace_suffix behind).trans (suffix_of_skipSpace heq hrest))
      dsimp only
      split
      · exact suffix_of_skipSpace ‹_› hrest
      · rename_i more heq
        exact (ih.fields depth _ _).of_suffix
          ((skipSpace_suffix more).trans (suffix_of_skipSpace heq hrest))
      · trivial
    · trivial
  · trivial

end FuelWithin

theorem fuelWithin (lone : Option Char) (fuel : Nat) : FuelWithin lone fuel := by
  induction fuel with
  | zero => exact ⟨fun _ _ => trivial, fun _ _ => trivial, fun _ _ _ => trivial⟩
  | succ fuel ih => exact ⟨ih.value_succ, ih.items_succ, fun depth before text =>
      ih.fields_succ depth text before⟩

section Faults
variable {lone : Option Char} {depth digits : Nat} {text : String} {array : Bool} {fault : ReadError}

theorem within_of_readWith_eq_error (h : readWith lone depth text = .error fault) :
    Within lone depth text.toList (.error fault : Except ReadError (Value × List Char)) := by
  have hwithin := ((fuelWithin lone (2 * text.toList.length + 2)).value depth
    (skipSpace text.toList)).of_suffix (skipSpace_suffix text.toList)
  cases hread : readValue lone (2 * text.toList.length + 2) depth (skipSpace text.toList) with
  | error found =>
    simp only [readWith, hread, bind, Except.bind, Except.error.injEq] at h
    rwa [hread, h] at hwithin
  | ok result =>
    simp only [readWith, hread, bind, Except.bind] at h
    split at h <;> cases h
    trivial

theorem readWith_ne_unpaired (c : Char) : readWith (some c) depth text ≠ .error .unpaired := by
  intro h
  cases within_of_readWith_eq_error h

theorem within_of_read_eq_error (h : read depth text = .error fault) (hfault : fault ≠ .unpaired) :
    Within none depth text.toList (.error fault : Except ReadError (Value × List Char)) := by
  rcases Steps.bind_eq_error_iff.mp h with h | ⟨_, _, h⟩
  · have hwithin := within_of_readWith_eq_error h
    cases fault with
    | unpaired => exact absurd rfl hfault
    | _ => exact hwithin
  · cases hread : readWith none depth text with
    | ok value =>
      rw [hread] at h
      cases h
    | error found =>
      rw [hread] at h
      cases h
      exact absurd rfl hfault

/-- Only a text that opens more brackets than may nest is given up for its depth. -/
theorem lt_opens (h : read depth text = .error (.tooDeep array)) : depth < opens text.toList :=
  within_of_read_eq_error h nofun

/-- Only a text with more digits than a number may have is given up for the length of one. -/
theorem lt_digitCount (h : read depth text = .error (.longNumber digits)) :
    4300 < digits ∧ digits ≤ digitCount text.toList :=
  within_of_read_eq_error h nofun

end Faults

theorem readValue_replicate (lone : Option Char) (fuel : Nat) {depth n : Nat} (hfuel : 2 * depth < fuel)
    (hn : depth ≤ n) : readValue lone fuel depth ('[' :: List.replicate n '[') = .error (.tooDeep true) := by
  induction depth generalizing fuel n with
  | zero =>
    obtain ⟨fuel, rfl⟩ := Nat.exists_eq_add_one_of_ne_zero (Nat.ne_of_gt hfuel)
    rfl
  | succ depth ih =>
    obtain ⟨fuel, rfl⟩ := Nat.exists_eq_add_of_le (show 2 ≤ fuel by omega)
    obtain ⟨n, rfl⟩ := Nat.exists_eq_add_of_le' (show 1 ≤ n by omega)
    have hread := ih fuel (n := n) (by omega) (by omega)
    have hitems : readItems lone (fuel + 1) depth ('[' :: List.replicate n '[') =
        .error (.tooDeep true) := by
      rw [readItems, hread]
      rfl
    rw [Nat.add_comm 2 fuel, List.replicate_succ]
    change (readItems lone (fuel + 1) depth ('[' :: List.replicate n '[')).map _ = _
    rw [hitems]
    rfl

theorem read_eq_error_of_readWith {depth : Nat} {text : String} {fault : ReadError}
    (h : readWith (some placeholder) depth text = .error fault) : read depth text = .error fault := by
  rw [read, h]
  rfl

theorem read_replicate {depth n : Nat} (h : depth < n) :
    read depth (String.ofList (List.replicate n '[')) = .error (.tooDeep true) := by
  obtain ⟨n, rfl⟩ := Nat.exists_eq_add_of_le' (show 1 ≤ n by omega)
  have hspace : skipSpace (List.replicate (n + 1) '[') = '[' :: List.replicate n '[' := rfl
  have hread := readValue_replicate (some placeholder) (2 * (n + 1) + 2) (by omega) (Nat.le_of_lt_succ h)
  apply read_eq_error_of_readWith
  simp only [readWith, String.toList_ofList, List.length_replicate, hspace, hread]
  rfl

theorem readUnsigned_ones {n : Nat} (h : 4300 < n + 1) :
    readUnsigned false ('1' :: List.replicate n '1') = .error (.longNumber (n + 1)) := by
  have hwhole : digitsOf ('1' :: List.replicate n '1') = '1' :: List.replicate n '1' := by
    rw [← List.replicate_succ, digitsOf, List.takeWhile_eq_self_iff]
    intro c hc
    rw [List.eq_of_mem_replicate hc]
    rfl
  have hdrop : ('1' :: List.replicate n '1').drop (n + 1) = [] := by simp
  simp [readUnsigned, hwhole, hdrop, fractionOf, exponentOf, h]

theorem read_ones (depth : Nat) {n : Nat} (h : 4300 < n) :
    read depth (String.ofList (List.replicate n '1')) = .error (.longNumber n) := by
  obtain ⟨n, rfl⟩ := Nat.exists_eq_add_of_le' (show 1 ≤ n by omega)
  have hspace : skipSpace (List.replicate (n + 1) '1') = '1' :: List.replicate n '1' := rfl
  have hread : readValue (some placeholder) (2 * (n + 1) + 2) depth ('1' :: List.replicate n '1') =
      .error (.longNumber (n + 1)) := readUnsigned_ones h
  apply read_eq_error_of_readWith
  simp only [readWith, String.toList_ofList, List.length_replicate, hspace, hread]
  rfl

end GridQuery.Json
