import GridQuery.Proofs.Json.Rewriting
import GridQuery.Proofs.Number.Rereading
import GridQuery.Proofs.Store.Fetch

/-!
# What a column of values holds

The values of cells are kept in a column of JSON texts, in which a text that is a numeral may become the number
that the column makes of it.  A value is read back from what the column holds for it, and is then the one that
`kept` says: itself, but for some numbers.
-/

namespace GridQuery

/-- What a column that prefers numbers holds in one of its fields. -/
inductive Held
  | nothing
  | whole (n : Int)
  | real (x : Double)
  | text (s : String)

namespace Held

/-- A double is held as the whole number of less than 64 bits that it is, if it is one. -/
def ofDouble (x : Double) : Held :=
  match x.toInt? with
  | some n => if n.natAbs < 0x8000000000000000 then .whole n else .real x
  | none => .real x

/-- A column that keeps numbers takes a text for the whole number of 64 bits that it writes with digits alone,
or for the double that the column makes of a numeral. -/
def ofText : Keeping → String → Held
  | .texts, written => .text written
  | .numbers double, written =>
    let (negative, size) := Numeral.splitSign written.toList
    match Numeral.decimal? size with
    | none => .text written
    | some d =>
      let n : Int := if negative then -d.digits else d.digits
      if size.all Text.isAsciiDigit && fitsStore n then .whole n else ofDouble (double written)

def ofValue (keeping : Keeping) (value : Value) : Held :=
  if value.isNull then .nothing else ofText keeping (String.ofList (Json.write false value))

def read : Held → Except Json.ReadError Value
  | nothing => .ok .null
  | whole n => .ok (.int n)
  | real x => .ok (.real x)
  | text s => Json.read Json.maxDepth s

end Held

namespace Numeral
variable {c : Char} {rest : List Char}

/-- A character that no numeral starts with. -/
def Foreign (c : Char) : Prop := Text.isAsciiDigit c = false ∧ c ∉ ['.', '-', '+']

instance : DecidablePred Foreign := fun c =>
  inferInstanceAs (Decidable (Text.isAsciiDigit c = false ∧ c ∉ ['.', '-', '+']))

theorem decimal?_eq_none (hdigit : Text.isAsciiDigit c = false) (hpoint : c ≠ '.') :
    decimal? (c :: rest) = none := by
  have htake : (c :: rest).takeWhile Text.isAsciiDigit = [] := List.takeWhile_cons_of_neg (by simp [hdigit])
  have hdrop : (c :: rest).dropWhile Text.isAsciiDigit = c :: rest :=
    List.dropWhile_cons_of_neg (by simp [hdigit])
  unfold decimal?
  simp only [htake, hdrop]
  split
  · rename_i heq
    exact absurd (List.cons.inj heq).1 hpoint
  · rfl

theorem splitSign_of_foreign (h : Foreign c) : splitSign (c :: rest) = (false, c :: rest) := by
  obtain ⟨-, hother⟩ := h
  unfold splitSign
  split
  · rename_i heq
    exact absurd (by simp [(List.cons.inj heq).1]) hother
  · rename_i heq
    exact absurd (by simp [(List.cons.inj heq).1]) hother
  · rfl

end Numeral

namespace Held
variable {c : Char} {rest : List Char}

theorem ofText_of_foreign (keeping : Keeping) (h : Numeral.Foreign c) :
    ofText keeping (String.ofList (c :: rest)) = .text (String.ofList (c :: rest)) := by
  cases keeping with
  | texts => rfl
  | numbers double =>
    have hpoint : c ≠ '.' := fun heq => h.2 (by simp [heq])
    simp only [ofText, String.toList_ofList, Numeral.splitSign_of_foreign h,
      Numeral.decimal?_eq_none h.1 hpoint]

theorem read_ofDouble (x : Double) : (ofDouble x).read = .ok x.kept := by
  simp only [ofDouble, Double.kept]
  cases x.toInt? with
  | none => rfl
  | some n =>
    simp only
    split <;> rfl

end Held

namespace Json
variable {longest : Nat} {negative : Bool} {value : Value} {text : List Char} {double : String → Double}

theorem Unsigned.exists_decimal (h : Unsigned longest negative value text []) :
    ∃ d, Numeral.decimal? text = some d ∧
      (∀ n, value = .int n → text.all Text.isAsciiDigit = true ∧
        n = if negative then -(d.digits : Int) else d.digits) ∧
      ∀ x, value = .real x → text.all Text.isAsciiDigit = false := by
  cases h with
  | @int digits _ _ whole short =>
    have htext : text = digits := by rw [whole.split, List.append_nil]
    refine ⟨_, Numeral.decimal?_of_parts whole .absent .absent, ?_, nofun⟩
    rintro n ⟨⟩
    rw [List.append_nil]
    exact ⟨htext ▸ List.all_eq_true.mpr whole.all, rfl⟩
  | real whole behind exponent broken =>
    refine ⟨_, Numeral.decimal?_of_parts whole behind exponent, nofun, fun _ _ => ?_⟩
    have hunsigned := @Unsigned.real longest negative _ _ _ _ _ _ _ whole behind exponent broken
    obtain ⟨c, hc, hkind⟩ := hunsigned.exists_not_digit rfl
    rw [List.all_eq_false]
    exact ⟨c, hc, by rcases hkind with rfl | rfl | rfl <;> decide⟩

theorem Number.splitSign (h : Number longest value text []) (hfinite : ∀ x, value = .real x → x.isFinite) :
    ∃ negative size, Numeral.splitSign text = (negative, size) ∧ Unsigned longest negative value size [] := by
  cases h with
  | positive h => exact ⟨_, _, Numeral.splitSign_of_digit h.head_isAsciiDigit, h⟩
  | negative h => exact ⟨_, _, rfl, h⟩
  | infinity => cases hfinite _ rfl
  | negativeInfinity => cases hfinite _ rfl

theorem Number.ofText_int {n : Int} (h : Number longest (.int n) text []) :
    Held.ofText (.numbers double) (String.ofList text) =
      if fitsStore n then .whole n else .ofDouble (double (String.ofList text)) := by
  obtain ⟨negative, size, hsign, hunsigned⟩ := h.splitSign nofun
  obtain ⟨d, hdecimal, hint, -⟩ := hunsigned.exists_decimal
  obtain ⟨hbare, hn⟩ := hint n rfl
  simp only [Held.ofText, String.toList_ofList, hsign, hdecimal, hbare, Bool.true_and]
  rw [← hn]

theorem Number.ofText_real {x : Double} (h : Number longest (.real x) text []) (hfinite : x.isFinite) :
    Held.ofText (.numbers double) (String.ofList text) = .ofDouble (double (String.ofList text)) := by
  obtain ⟨negative, size, hsign, hunsigned⟩ := h.splitSign fun _ heq => Value.real.inj heq ▸ hfinite
  obtain ⟨d, hdecimal, -, hreal⟩ := hunsigned.exists_decimal
  simp only [Held.ofText, String.toList_ofList, hsign, hdecimal, hreal x rfl, Bool.false_and,
    Bool.false_eq_true, if_false]

end Json

namespace Held
variable {value : Value}

theorem read_of_text (keeping : Keeping) (legible : value.Legible Json.maxDepth)
    (h : ofText keeping (String.ofList (Json.write false value)) =
      .text (String.ofList (Json.write false value))) : (ofValue keeping value).read = .ok value := by
  cases hnull : value.isNull with
  | true =>
    cases value with
    | null => rfl
    | _ => cases hnull
  | false =>
    rw [ofValue, hnull, if_neg Bool.false_ne_true, h]
    exact Json.read_write_of_legible legible

theorem exists_foreign (readable : value.IsReadable) (hint : ∀ n, value ≠ .int n)
    (hreal : ∀ x, value ≠ .real x) :
    ∃ c rest, Json.write false value = c :: rest ∧ Numeral.Foreign c := by
  cases value with
  | null => exact ⟨'n', "ull".toList, rfl, by decide⟩
  | bool b =>
    cases b with
    | false => exact ⟨'f', "alse".toList, rfl, by decide⟩
    | true => exact ⟨'t', "rue".toList, rfl, by decide⟩
  | int n => exact absurd rfl (hint n)
  | real x => exact absurd rfl (hreal x)
  | text s => exact ⟨'"', _, rfl, by decide⟩
  | date d => exact readable.elim
  | time t => exact readable.elim
  | list items => exact ⟨'[', _, rfl, by decide⟩
  | object fields => exact ⟨'\x7b', _, rfl, by decide⟩

theorem read_ofValue_int {n : Int} (double : String → Double) (legible : (Value.int n).Legible Json.maxDepth) :
    (ofValue (.numbers double) (.int n)).read = .ok ((Keeping.numbers double).kept (.int n)) := by
  have hnumber := Json.number_toString legible.short []
  rw [List.append_nil] at hnumber
  have hheld : ofValue (.numbers double) (.int n) =
      if fitsStore n then .whole n else .ofDouble (double (String.ofList (toString n).toList)) := hnumber.ofText_int
  rw [hheld, Keeping.kept_numbers_int, String.ofList_toList]
  split
  · rfl
  · exact read_ofDouble _

theorem read_ofValue_real (double : String → Double) (x : Double)
    (legible : (Value.real x).Legible Json.maxDepth) :
    (ofValue (.numbers double) (.real x)).read = .ok ((Keeping.numbers double).kept (.real x)) := by
  have hwritten : Json.write false (.real x) = Json.writeReal x := rfl
  rcases Json.writeReal_cases x with hfinite | ⟨hword, rfl⟩ | ⟨hword, rfl⟩ | ⟨hword, rfl⟩
  · have hnumber := @Double.number_text x 0 hfinite
    have hheld : ofValue (.numbers double) (.real x) = .ofDouble (double x.text) := by
      rw [← @String.ofList_toList x.text, ← hnumber.ofText_real hfinite, Double.toList_text hfinite]
      rfl
    rw [hheld, Keeping.kept, if_pos hfinite]
    exact read_ofDouble _
  all_goals
    apply read_of_text (.numbers double) legible
    rw [hwritten, hword]
  · exact @ofText_of_foreign 'N' "aN".toList _ (by decide)
  · exact @ofText_of_foreign 'I' "nfinity".toList _ (by decide)
  · rfl

theorem read_ofValue (keeping : Keeping) (legible : value.Legible Json.maxDepth) :
    (ofValue keeping value).read = .ok (keeping.kept value) := by
  cases keeping with
  | texts =>
    have hkept : Keeping.texts.kept value = value := by cases value <;> rfl
    rw [hkept]
    exact read_of_text .texts legible rfl
  | numbers double =>
    cases value with
    | null => rfl
    | int n => exact read_ofValue_int double legible
    | real x => exact read_ofValue_real double x legible
    | _ =>
      obtain ⟨c, rest, hwritten, hforeign⟩ := exists_foreign legible.readable nofun nofun
      refine read_of_text (.numbers double) legible ?_
      rw [hwritten]
      exact ofText_of_foreign _ hforeign

end Held

end GridQuery
