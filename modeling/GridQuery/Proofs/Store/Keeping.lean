import GridQuery.Proofs.Json.Writing
import GridQuery.Proofs.Number.Order
import GridQuery.Proofs.Number.Rereading
import GridQuery.Proofs.Store.Fetch

/-!
# Texts of values that are kept

A value comes back from a store with the canonical text that it had unless it is a number, beyond 64 bits
or with a fraction, of whose numeral the store makes another number.
-/

namespace GridQuery

theorem Magnitude.units_of_fraction_eq_zero {m : Magnitude} (h : m.fraction = 0) :
    m.units = m.whole * unitsPerOne := by
  have hsplit := Nat.div_add_mod' m.units unitsPerOne
  rw [fraction] at h
  rw [h, Nat.add_zero] at hsplit
  exact hsplit.symm

namespace Double
variable {x y : Double} {n : Int}

theorem units?_of_toInt? (h : x.toInt? = some n) : x.units? = some (n * Magnitude.unitsPerOne) := by
  cases x with
  | nan => cases h
  | signed negative m =>
    rw [toInt?] at h
    split at h
    · rename_i hwhole
      obtain ⟨-, hfraction⟩ := Bool.and_eq_true_iff.mp hwhole
      have hunits := Magnitude.units_of_fraction_eq_zero (eq_of_beq hfraction)
      obtain rfl := Option.some.inj h
      generalize Magnitude.unitsPerOne = one at hunits ⊢
      cases negative with
      | false => simp [units?, hunits]
      | true => simp [units?, hunits]
    · cases h

theorem toInt?_zero {negative : Bool} {m : Magnitude} (h : m.rank = 0) :
    (signed negative m).toInt? = some 0 := by
  have hunits : m.units = 0 := by
    rw [Magnitude.units, h]
    rfl
  have hwhole : m.whole = 0 := by rw [Magnitude.whole, hunits, Nat.zero_div]
  have hfraction : m.fraction = 0 := by rw [Magnitude.fraction, hunits, Nat.zero_mod]
  have hfinite : m.isFinite := decide_eq_true (h ▸ by decide)
  rw [toInt?, hfinite, hfraction, hwhole]
  cases negative <;> rfl

theorem place?_eq_of_units? {units : Int} (hx : x.units? = some units) (hy : y.units? = some units) :
    x.place? = y.place? := by
  obtain ⟨a, ha⟩ := Option.isSome_iff_exists.mp ((place?_isSome_eq x).trans (by rw [hx]; rfl))
  obtain ⟨b, hb⟩ := Option.isSome_iff_exists.mp ((place?_isSome_eq y).trans (by rw [hy]; rfl))
  have hlt := units_lt_iff_place_lt ha hb hx hy
  have hgt := units_lt_iff_place_lt hb ha hy hx
  rw [ha, hb, Option.some.injEq]
  omega

theorem eq_or_zero_of_place?_eq (hfinite : x.isFinite) (h : y.place? = x.place?) :
    y = x ∨ y.toInt? = some 0 ∧ x.toInt? = some 0 := by
  cases x with
  | nan => cases hfinite
  | signed xneg m =>
    cases y with
    | nan => cases xneg <;> cases h
    | signed yneg k =>
      by_cases hsame : k.rank = m.rank ∧ yneg = xneg
      · obtain ⟨hrank, rfl⟩ := hsame
        obtain rfl : k = m := by
          cases k
          cases m
          exact (Magnitude.mk.injEq ..).mpr hrank
        exact .inl rfl
      · have hboth : k.rank = 0 ∧ m.rank = 0 := by
          cases xneg <;> cases yneg <;> simp [place?] at h hsame <;> omega
        exact .inr ⟨toInt?_zero hboth.1, toInt?_zero hboth.2⟩

theorem text_inj (hfinite : x.isFinite) (h : y.text = x.text) : y = x := by
  have hread : ofText? y.text = some x := h ▸ ofText?_text hfinite
  rcases Json.writeReal_cases y with hy | ⟨-, rfl⟩ | ⟨-, rfl⟩ | ⟨-, rfl⟩
  · exact Option.some.inj ((ofText?_text hy).symm.trans hread)
  · exact Option.some.inj ((by decide : ofText? nan.text = some nan).symm.trans hread)
  · exact Option.some.inj ((by decide : ofText? (signed false .infinity).text = _).symm.trans hread)
  · exact Option.some.inj ((by decide : ofText? (signed true .infinity).text = _).symm.trans hread)

end Double

namespace Value
variable {type : String} {x y : Double}

theorem canonicalText?_real (x : Double) (type : String) :
    (real x).canonicalText? type = some ((x.toInt?.map toString).getD x.text) := rfl

theorem canonicalText?_real_eq_iff {n : Int} :
    (real x).canonicalText? type = some (toString n) ↔ x.toInt? = some n := by
  rw [canonicalText?_real, Option.some.injEq]
  cases hx : x.toInt? with
  | some m => simp [Int.toString_eq_repr, Int.repr_inj]
  | none =>
    refine iff_of_false ?_ (Option.some_ne_none n).symm
    rw [Option.map_none, Option.getD_none]
    rcases Json.writeReal_cases x with hfinite | hword
    · exact Double.text_ne_toString hfinite n
    · intro heq
      have hletter : 'n' ∈ (toString n).toList := by
        rw [← heq]
        rcases hword with ⟨-, rfl⟩ | ⟨-, rfl⟩ | ⟨-, rfl⟩ <;> decide
      rcases Json.mem_toString hletter with h | h <;> cases h

theorem canonicalText?_real_inj (hfinite : x.isFinite) :
    (real y).canonicalText? type = (real x).canonicalText? type ↔ y.place? = x.place? := by
  constructor
  · intro h
    cases hx : x.toInt? with
    | some n =>
      rw [canonicalText?_real_eq_iff.mpr hx, canonicalText?_real_eq_iff] at h
      exact Double.place?_eq_of_units? (Double.units?_of_toInt? h) (Double.units?_of_toInt? hx)
    | none =>
      rw [canonicalText?_real x, hx, Option.map_none, Option.getD_none] at h
      cases hy : y.toInt? with
      | some n =>
        rw [canonicalText?_real_eq_iff.mpr hy] at h
        exact absurd (Option.some.inj h).symm (Double.text_ne_toString hfinite n)
      | none =>
        rw [canonicalText?_real, hy, Option.some.injEq, Option.map_none, Option.getD_none] at h
        rw [Double.text_inj hfinite h]
  · intro h
    rcases Double.eq_or_zero_of_place?_eq hfinite h with rfl | ⟨hy, hx⟩
    · rfl
    · rw [canonicalText?_real_eq_iff.mpr hy, canonicalText?_real_eq_iff.mpr hx]

end Value

theorem Double.canonicalText?_kept (x : Double) (type : String) :
    x.kept.canonicalText? "" = (Value.real x).canonicalText? type := by
  rcases x.kept_cases with h | ⟨n, hn, h⟩
  · rw [h]
    rfl
  · rw [h, Value.canonicalText?_real_eq_iff.mpr hn]
    rfl

namespace Keeping
variable {keeping : Keeping} {value : Value} {type : String}

/-- A number that is written into a store comes back as the number that it was.  Other values always do. -/
def Restores : Keeping → Value → Prop
  | .numbers double, .int n => fitsStore n ∨ (double (toString n)).toInt? = some n
  | .numbers double, .real x => x.isFinite → (double x.text).place? = x.place?
  | _, _ => True

theorem restores_texts (value : Value) : texts.Restores value := by
  cases value <;> trivial

theorem canonicalText?_kept_iff (htype : type ≠ "reference") :
    (keeping.kept value).canonicalText? "" = value.canonicalText? type ↔ keeping.Restores value := by
  cases keeping with
  | texts =>
    refine iff_of_true ?_ (restores_texts value)
    cases value <;> simp [kept, Value.canonicalText?, htype]
  | numbers double =>
    cases value with
    | int n =>
      have htext : (Value.int n).canonicalText? type = some (toString n) := rfl
      rw [kept_numbers_int, Restores]
      by_cases hfits : fitsStore n
      · rw [if_pos hfits]
        exact iff_of_true rfl (.inl hfits)
      · rw [if_neg hfits, Double.canonicalText?_kept _ type, htext, Value.canonicalText?_real_eq_iff]
        exact (or_iff_right hfits).symm
    | real x =>
      rw [kept, Restores]
      by_cases hfinite : x.isFinite
      · rw [if_pos hfinite, Double.canonicalText?_kept _ type, Value.canonicalText?_real_inj hfinite]
        exact ⟨fun h _ => h, fun h => h hfinite⟩
      · rw [if_neg hfinite]
        exact iff_of_true rfl fun h => absurd h hfinite
    | list items => exact iff_of_true (by simp [kept, Value.canonicalText?, htype]) trivial
    | _ => exact iff_of_true rfl trivial

end Keeping

end GridQuery
