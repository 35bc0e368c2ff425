import GridQuery.Proofs.Calendar.Rereading
import GridQuery.Proofs.Calendar.Utc
import GridQuery.Proofs.Calendar.Weeks

/-!
# Dates without a time of day

A date alone is written by month and day or by week and weekday, with dashes or without, or as a week alone,
which means its Monday.  Each of these texts is read as its date, and all but those of ten characters are read
as a timestamp too, at midnight and without an offset.
-/

namespace GridQuery

namespace Iso

/-- A text is a date in one of the forms of ISO 8601, without a time of day. -/
inductive Spells (date : Date) : List Char → Prop
  | calendar (dashed : Bool) : Spells date (fixedDigits 4 date.year ++ (dash dashed ++
      (fixedDigits 2 date.month ++ (dash dashed ++ fixedDigits 2 date.day))))
  | weekday (dashed : Bool) : Spells date (fixedDigits 4 date.weekYear ++ (dash dashed ++
      ('W' :: (fixedDigits 2 date.week ++ (dash dashed ++ fixedDigits 1 (date.weekday + 1))))))
  | week (dashed : Bool) (monday : date.weekday = 0) : Spells date (fixedDigits 4 date.weekYear ++
      (dash dashed ++ ('W' :: fixedDigits 2 date.week)))

variable {date : Date} {text : List Char} {dashed : Bool} {year : Nat}

theorem weekFields_lt (date : Date) :
    date.weekYear < 10 ^ 4 ∧ date.week < 10 ^ 2 ∧ date.weekday + 1 < 10 ^ 1 := by
  have hyear : date.weekYear ≤ 9999 := date.thursday.year_le
  have hweek := date.week_mem
  have hweekday := date.weekday_lt
  omega

theorem dateFields?_weekday (date : Date) (dashed : Bool) :
    dateFields? (fixedDigits 4 date.weekYear ++ (dash dashed ++
      ('W' :: (fixedDigits 2 date.week ++ (dash dashed ++ fixedDigits 1 (date.weekday + 1)))))) =
      some ⟨date.year, date.month, date.day⟩ := by
  obtain ⟨hyear, hweek, hweekday⟩ := weekFields_lt date
  have hhead := @head?_dash_append dashed ('W' :: (fixedDigits 2 date.week ++
    (dash dashed ++ fixedDigits 1 (date.weekday + 1)))) (by simp)
  have hmore : (dash dashed ++ fixedDigits 1 (date.weekday + 1)).isEmpty = false := by
    cases dashed <;> rfl
  simp only [dateFields?, readDigits_fixedDigits hyear, Option.bind_eq_bind, Option.bind_some, hhead,
    skipDash_dash, readDigits_fixedDigits hweek, hmore, Bool.false_eq_true, if_false,
    readDigits_last hweekday, ofWeek?_week]

theorem dateFields?_week (monday : date.weekday = 0) (dashed : Bool) :
    dateFields? (fixedDigits 4 date.weekYear ++ (dash dashed ++ ('W' :: fixedDigits 2 date.week))) =
      some ⟨date.year, date.month, date.day⟩ := by
  obtain ⟨hyear, hweek, -⟩ := weekFields_lt date
  have hhead := @head?_dash_append dashed ('W' :: fixedDigits 2 date.week) (by simp)
  have hnamed := ofWeek?_week date
  rw [monday] at hnamed
  simp only [dateFields?, readDigits_fixedDigits hyear, Option.bind_eq_bind, Option.bind_some, hhead,
    skipDash_dash, readDigits_last hweek, List.isEmpty_nil, if_true, hnamed]

theorem Spells.dateFields?_eq (h : Spells date text) :
    dateFields? text = some ⟨date.year, date.month, date.day⟩ := by
  cases h with
  | calendar dashed => exact dateFields?_calendar date dashed
  | weekday dashed => exact dateFields?_weekday date dashed
  | week dashed monday => exact dateFields?_week monday dashed

theorem Spells.forall_mem {p : Char → Prop} (h : Spells date text) (hdigit : ∀ d < 10, p (Nat.digitChar d))
    (hdash : p '-') (hletter : p 'W') : ∀ c ∈ text, p c := by
  have hfixed := forall_mem_fixedDigits hdigit
  have hdashes (dashed : Bool) : ∀ c ∈ dash dashed, p c := by
    cases dashed with
    | true => exact List.forall_mem_singleton.mpr hdash
    | false => exact nofun
  cases h with
  | calendar dashed =>
    simp only [List.forall_mem_append]
    exact ⟨hfixed 4 _, hdashes dashed, hfixed 2 _, hdashes dashed, hfixed 2 _⟩
  | weekday dashed =>
    simp only [List.forall_mem_append, List.forall_mem_cons]
    exact ⟨hfixed 4 _, hdashes dashed, hletter, hfixed 2 _, hdashes dashed, hfixed 1 _⟩
  | week dashed _ =>
    simp only [List.forall_mem_append, List.forall_mem_cons]
    exact ⟨hfixed 4 _, hdashes dashed, hletter, hfixed 2 _⟩

theorem dateLength_of_seven (h : text.length = 7) : dateLength text = 7 := by
  simp only [dateLength, h, if_true]

section Length
variable {c : Char} (hlength : text.length ≠ 7)
include hlength

theorem dateLength_of_digit (hfifth : text[4]? = some c) (hdash : c ≠ '-') (hletter : c ≠ 'W') :
    dateLength text = 8 := by
  simp only [dateLength, hfifth, Option.some.injEq, if_neg hlength, if_neg hdash, if_neg hletter]

theorem dateLength_of_week (hfifth : text[4]? = some 'W') (hrest : text.drop 7 = [c])
    (hdigit : (Text.asciiDigit? c).isSome) : dateLength text = 8 := by
  have hrun : [c].takeWhile (fun c => (Text.asciiDigit? c).isSome) = [c] := List.takeWhile_cons_of_pos hdigit
  simp [dateLength, hlength, hfifth, hrest, hrun]

theorem dateLength_of_dashedWeek (hfifth : text[4]? = some '-') (hsixth : text[5]? = some 'W')
    (hend : text[8]? = none) : dateLength text = 8 := by
  simp only [dateLength, hfifth, hsixth, hend, if_neg hlength, if_true, reduceCtorEq, false_and, if_false]

end Length

theorem Spells.dateLength_eq (h : Spells date text) (hlength : text.length ≠ 10) :
    7 ≤ text.length ∧ dateLength text = text.length := by
  have hdigit : ∀ d < 10, Nat.digitChar d ≠ '-' ∧ Nat.digitChar d ≠ 'W' ∧
      (Text.asciiDigit? (Nat.digitChar d)).isSome := by decide
  have hwritten (n : Nat) := hdigit (n % 10) (Nat.mod_lt n (by decide))
  have hseven : (7 : Nat) ≤ 8 := by decide
  have height : (8 : Nat) ≠ 7 := by decide
  cases h with
  | calendar dashed =>
    cases dashed with
    | true => exact absurd rfl hlength
    | false =>
      obtain ⟨hdash, hletter, -⟩ := hwritten (date.month / 10)
      exact ⟨hseven, dateLength_of_digit height rfl hdash hletter⟩
  | weekday dashed =>
    cases dashed with
    | true => exact absurd rfl hlength
    | false => exact ⟨hseven, dateLength_of_week height rfl rfl (hwritten _).2.2⟩
  | week dashed monday =>
    cases dashed with
    | true => exact ⟨hseven, dateLength_of_dashedWeek height rfl rfl rfl⟩
    | false => exact ⟨Nat.le_refl 7, dateLength_of_seven rfl⟩

theorem Spells.stampFields?_eq (h : Spells date text) (hlength : text.length ≠ 10) :
    stampFields? text = some (⟨date.year, date.month, date.day⟩, ⟨⟨0, 0, 0, 0, true⟩, none⟩) := by
  obtain ⟨hlong, hall⟩ := h.dateLength_eq hlength
  simp only [stampFields?, if_neg (Nat.not_lt.mpr hlong), hall, List.take_length, List.drop_length,
    h.dateFields?_eq, Option.bind_eq_bind, Option.bind_some]

end Iso

open Iso

section Reading
variable {date : Date} {s : String}

theorem Date.ofIso_of_spells (h : Spells date s.toList) : Date.ofIso s = .ok date := by
  have hascii : s.toList.any (0x80 ≤ ·.toNat) = false := by
    rw [List.any_eq_false]
    intro c hc
    have hlt := h.forall_mem (p := fun c => c.toNat < 0x80) (by decide) (by decide) (by decide) c hc
    rw [decide_eq_true_eq]
    omega
  rw [ofIso, hascii, if_neg Bool.false_ne_true, h.dateFields?_eq]
  exact checkDate_fields date

theorem Timestamp.ofIso_of_spells (h : Spells date s.toList) (hlength : s.length ≠ 10) :
    Timestamp.ofIso s = .ok ⟨.midnight date, none⟩ := by
  have hclock : checkClock ⟨0, 0, 0, 0, true⟩ = .ok ⟨0, by decide⟩ :=
    @checkClock_showing 0 (by decide)
  have hreading : Reading.ofDate date ⟨0, by decide⟩ = .midnight date :=
    Reading.eq_iff_micros.mpr (Nat.add_zero _)
  rw [ofIso, h.stampFields?_eq hlength]
  simp only [checkOffset, checkDate_fields, hclock, bind, Except.bind, pure, Except.pure, hreading]

end Reading

end GridQuery
