import GridQuery.Calendar.IsoText
import GridQuery.Proofs.Calendar.SortableText
import GridQuery.Proofs.Text.Trimming

/-!
# Reading written timestamps

The ISO text of a timestamp is read as that timestamp, down to the microsecond of the reading and of the
offset.  Only an offset of less than a second is read as none.
-/

namespace GridQuery

theorem Text.asciiDigit?_digitChar : ∀ d < 10, asciiDigit? (Nat.digitChar d) = some d := by decide

theorem forall_mem_fixedDigits {p : Char → Prop} (hdigit : ∀ d < 10, p (Nat.digitChar d))
    (width n : Nat) : ∀ c ∈ fixedDigits width n, p c := by
  induction width generalizing n with
  | zero => exact nofun
  | succ width ih =>
    intro c hc
    rcases List.mem_append.mp hc with hc | hc
    · exact ih (n / 10) c hc
    · rw [List.mem_singleton.mp hc]
      exact hdigit _ (Nat.mod_lt n (by decide))

/-- The offset is none, or at least a second. -/
def Offset.Kept (offset : Offset) : Prop := offset.micros = 0 ∨ 1000000 ≤ offset.micros.natAbs

theorem Offset.kept_utc : utc.Kept := .inl rfl

theorem Offset.ext_iff {a b : Offset} : a = b ↔ a.micros = b.micros := by
  obtain ⟨_, _⟩ := a
  obtain ⟨_, _⟩ := b
  exact Offset.mk.injEq .. ▸ Iff.rfl

namespace Iso
variable {text rest front : List Char}

section Digits

theorem readDigits_add (a b start : Nat) (text : List Char) :
    readDigits (a + b) start text =
      (readDigits a start text).bind fun read => readDigits b read.1 read.2 := by
  induction a generalizing start text with
  | zero =>
    rw [Nat.zero_add]
    rfl
  | succ a ih =>
    rw [Nat.succ_add]
    cases text with
    | nil => rfl
    | cons c text =>
      cases hc : Text.asciiDigit? c with
      | none => simp [readDigits, hc]
      | some d => simp [readDigits, hc, ih]

theorem readDigits_continued (width n start : Nat) (rest : List Char) :
    readDigits width start (fixedDigits width n ++ rest) =
      some (start * 10 ^ width + n % 10 ^ width, rest) := by
  -- digits are written from the last one on and read from the first one on: the induction takes off the
  -- last digit, and `readDigits_add` reads those before it
  induction width generalizing n rest with
  | zero => simp [readDigits, fixedDigits, Nat.mod_one]
  | succ width ih =>
    have hdigit := Text.asciiDigit?_digitChar (n % 10) (Nat.mod_lt n (by decide))
    have hsplit : n % 10 ^ (width + 1) = n % 10 + 10 * (n / 10 % 10 ^ width) := by
      rw [Nat.pow_succ, Nat.mul_comm, Nat.mod_mul]
    rw [fixedDigits, List.append_assoc, readDigits_add, ih, List.singleton_append, Option.bind_some,
      hsplit]
    simp only [readDigits, hdigit, Option.bind_eq_bind, Option.bind_some, Option.some.injEq,
      Prod.mk.injEq, and_true]
    ring

theorem readDigits_fixedDigits {width n : Nat} (h : n < 10 ^ width) (rest : List Char) :
    readDigits width 0 (fixedDigits width n ++ rest) = some (n, rest) := by
  rw [readDigits_continued, Nat.mod_eq_of_lt h, Nat.zero_mul, Nat.zero_add]

theorem readDigits_last {width n : Nat} (h : n < 10 ^ width) :
    readDigits width 0 (fixedDigits width n) = some (n, []) := by
  have hread := readDigits_fixedDigits h []
  rwa [List.append_nil] at hread

end Digits

section Fields
variable {n count : Nat} {colons : Option Bool}

theorem readFields_colon (hcolons : colons.getD true = true) (h : n < 100) {more : List Char}
    (hmore : more ≠ []) :
    readFields (count + 1) colons (fixedDigits 2 n ++ ':' :: more) =
      (readFields count (some true) more).bind fun read => some (n :: read.1, read.2) := by
  have hdigits := @readDigits_fixedDigits 2 n h (':' :: more)
  cases more with
  | nil => exact absurd rfl hmore
  | cons c more =>
    simp only [readFields, hdigits, Option.bind_eq_bind, Option.bind_some, decide_true, hcolons]
    rfl

theorem readFields_point (h : n < 100) {more : List Char} (hmore : more ≠ []) :
    readFields (count + 1) (some true) (fixedDigits 2 n ++ '.' :: more) =
      some ([n], .fraction more) := by
  cases more with
  | nil => exact absurd rfl hmore
  | cons c more =>
    simp only [readFields, @readDigits_fixedDigits 2 n h, Option.bind_eq_bind, Option.bind_some]
    rfl

theorem readFields_last (h : n < 100) :
    readFields (count + 1) colons (fixedDigits 2 n) = some ([n], .closed) := by
  simp only [readFields, @readDigits_last 2 n h, Option.bind_eq_bind, Option.bind_some]

theorem fraction?_fixedDigits (h : n < 1000000) : fraction? (fixedDigits 6 n) = some (n, true) := by
  simp [fraction?, length_fixedDigits, @readDigits_last 6 n h]

end Fields

section Clocks
variable {size : Nat}

/-- The clock of a time of day, or of the size of an offset, in microseconds. -/
def showing (size : Nat) : Clock where
  hour := size / 3600000000
  minute := size / 60000000 % 60
  second := size / 1000000 % 60
  microsecond := size % 1000000
  complete := true

def fractionChars (micros : Nat) : List Char := if micros = 0 then [] else '.' :: fixedDigits 6 micros

def minuteChars (size : Nat) : List Char :=
  fixedDigits 2 (showing size).hour ++ ':' :: fixedDigits 2 (showing size).minute

def secondChars (size : Nat) : List Char :=
  ':' :: (fixedDigits 2 (showing size).second ++ fractionChars (showing size).microsecond)

theorem fixedDigits_ne_nil {width : Nat} (hwidth : 0 < width) (n : Nat) (rest : List Char) :
    fixedDigits width n ++ rest ≠ [] := by
  intro hnil
  have hlength := congrArg List.length hnil
  rw [List.length_append, length_fixedDigits, List.length_nil] at hlength
  omega

theorem showing_lt (h : size < 86400000000) : (showing size).hour < 24 ∧ (showing size).minute < 60 ∧
    (showing size).second < 60 ∧ (showing size).microsecond < 1000000 := by
  simp only [showing]
  omega

theorem clock?_minuteChars (h : size < 86400000000) (hwhole : size % 60000000 = 0) :
    clock? (minuteChars size) = some (showing size) := by
  obtain ⟨hhour, hminute, _⟩ := showing_lt h
  have hnonempty := fixedDigits_ne_nil (show 0 < 2 by decide) (showing size).minute []
  rw [List.append_nil] at hnonempty
  have hfields : readFields 3 none (minuteChars size) =
      some ([(showing size).hour, (showing size).minute], .closed) := by
    rw [minuteChars, readFields_colon rfl (by omega) hnonempty, readFields_last (by omega)]
    rfl
  have hsecond : size / 1000000 % 60 = 0 := by omega
  have hmicros : size % 1000000 = 0 := by omega
  rw [clock?, hfields]
  simp [showing, hsecond, hmicros]

theorem clock?_secondChars (h : size < 86400000000) :
    clock? (minuteChars size ++ secondChars size) = some (showing size) := by
  obtain ⟨hhour, hminute, hsecond, hmicros⟩ := showing_lt h
  have hfields : readFields 3 none (minuteChars size ++ secondChars size) =
      (readFields 1 (some true)
        (fixedDigits 2 (showing size).second ++ fractionChars (showing size).microsecond)).bind
        fun read => some ((showing size).hour :: (showing size).minute :: read.1, read.2) := by
    rw [minuteChars, secondChars, List.append_assoc, List.cons_append,
      readFields_colon rfl (by omega) (fixedDigits_ne_nil (by decide) _ _),
      readFields_colon rfl (by omega) (fixedDigits_ne_nil (by decide) _ _), Option.bind_assoc]
    rfl
  rw [clock?, hfields, fractionChars]
  split
  · rename_i hzero
    rw [List.append_nil, readFields_last (by omega)]
    exact congrArg some (Clock.mk.injEq .. ▸ ⟨rfl, rfl, rfl, hzero.symm, rfl⟩)
  · have hnonempty := fixedDigits_ne_nil (show 0 < 6 by decide) (showing size).microsecond []
    rw [List.append_nil] at hnonempty
    rw [readFields_point (by omega) hnonempty]
    simp only [Option.bind_eq_bind, Option.bind_some, fraction?_fixedDigits hmicros]
    rfl

section Characters
variable {p : Char → Prop} (hdigit : ∀ d < 10, p (Nat.digitChar d)) (hcolon : p ':')
include hdigit hcolon

theorem forall_mem_minuteChars : ∀ c ∈ minuteChars size, p c := by
  simp only [minuteChars, List.forall_mem_append, List.forall_mem_cons]
  exact ⟨forall_mem_fixedDigits hdigit 2 _, hcolon, forall_mem_fixedDigits hdigit 2 _⟩

theorem forall_mem_secondChars (hpoint : p '.') : ∀ c ∈ secondChars size, p c := by
  simp only [secondChars, List.forall_mem_append, List.forall_mem_cons]
  refine ⟨hcolon, forall_mem_fixedDigits hdigit 2 _, ?_⟩
  rw [fractionChars]
  split
  · exact nofun
  · exact List.forall_mem_cons.mpr ⟨hpoint, forall_mem_fixedDigits hdigit 6 _⟩

end Characters

end Clocks

section Offsets
variable {offset : Offset}

/-- The offset that is read where one is written: one of less than a second is taken for UTC. -/
def reread (offset : Offset) : Offset := if offset.micros.natAbs < 1000000 then .utc else offset

theorem reread_eq_self_iff : reread offset = offset ↔ offset.Kept := by
  unfold reread Offset.Kept
  split
  · rename_i hsmall
    rw [Offset.utc, Offset.mk.injEq]
    omega
  · rename_i hlarge
    exact iff_of_true rfl (.inr (Nat.not_lt.mp hlarge))

def signOf (offset : Offset) : Char := if offset.micros < 0 then '-' else '+'

/-- What is written of an offset behind its sign. -/
def sizeChars (offset : Offset) : List Char :=
  minuteChars offset.micros.natAbs ++
    if offset.micros.natAbs % 60000000 = 0 then [] else secondChars offset.micros.natAbs

theorem natAbs_lt (offset : Offset) : offset.micros.natAbs < 86400000000 := by
  have hbound := offset.bounded
  omega

theorem clock?_sizeChars (offset : Offset) :
    clock? (sizeChars offset) = some (showing offset.micros.natAbs) := by
  rw [sizeChars]
  split
  · rename_i hwhole
    rw [List.append_nil]
    exact clock?_minuteChars (natAbs_lt offset) hwhole
  · exact clock?_secondChars (natAbs_lt offset)

theorem offsetMicros_showing (offset : Offset) :
    offsetMicros (signOf offset) (showing offset.micros.natAbs) = (reread offset).micros := by
  have hseconds : offset.micros.natAbs / 3600000000 * 3600 +
      offset.micros.natAbs / 60000000 % 60 * 60 + offset.micros.natAbs / 1000000 % 60 =
      offset.micros.natAbs / 1000000 := by omega
  have hnegative : signOf offset = '-' ↔ offset.micros < 0 := by
    unfold signOf
    split <;> simp_all
  simp only [offsetMicros, showing, hseconds, hnegative, reread]
  by_cases hsmall : offset.micros.natAbs < 1000000
  · rw [if_pos (by omega), if_pos hsmall]
    rfl
  · rw [if_neg (by omega), if_neg hsmall]
    split <;> omega

theorem toList_fractionText {micros : Nat} (h : micros < 1000000) :
    (Reading.fractionText micros).toList = fractionChars micros := by
  rw [Reading.fractionText, fractionChars]
  split
  · rfl
  · rw [String.toList_append, toList_padded (by decide) h]
    rfl

theorem toList_offset_text (offset : Offset) :
    offset.text.toList = signOf offset :: sizeChars offset := by
  obtain ⟨hhour, hminute, hsecond, hmicros⟩ := showing_lt (natAbs_lt offset)
  have hsign : (if offset.micros < 0 then "-" else "+").toList = [signOf offset] := by
    unfold signOf
    split <;> rfl
  have hhours : offset.micros.natAbs / 1000000 / 3600 = (showing offset.micros.natAbs).hour := by
    rw [Nat.div_div_eq_div_mul]
    rfl
  have hminutes : offset.micros.natAbs / 1000000 / 60 % 60 = (showing offset.micros.natAbs).minute := by
    rw [Nat.div_div_eq_div_mul]
    rfl
  have hseconds : offset.micros.natAbs / 1000000 % 60 = (showing offset.micros.natAbs).second := rfl
  have hfraction := toList_fractionText hmicros
  simp only [Offset.text, String.toList_append, hsign, hhours, hminutes, hseconds,
    @toList_padded 2 _ (by decide) (show (showing offset.micros.natAbs).hour < 10 ^ 2 by omega),
    @toList_padded 2 _ (by decide) (show (showing offset.micros.natAbs).minute < 10 ^ 2 by omega)]
  rw [sizeChars, minuteChars]
  split
  · simp
  · simp only [secondChars, String.toList_append,
      @toList_padded 2 _ (by decide) (show (showing offset.micros.natAbs).second < 10 ^ 2 by omega)]
    rw [← hfraction]
    simp [showing]

end Offsets

section Dashes
variable {dashed : Bool}

def dash (dashed : Bool) : List Char := if dashed then ['-'] else []

theorem skipDash_dash (dashed : Bool) (rest : List Char) :
    skipDash dashed (dash dashed ++ rest) = some rest := by
  cases dashed with
  | true => rfl
  | false =>
    show skipDash false rest = some rest
    unfold skipDash
    split <;> rfl

theorem head?_dash_append {rest : List Char} (h : rest.head? ≠ some '-') :
    decide ((dash dashed ++ rest).head? = some '-') = dashed := by
  cases dashed with
  | true => rfl
  | false => exact decide_eq_false h

theorem head?_fixedDigits_ne {width n : Nat} {c : Char} (hwidth : 0 < width)
    (hc : ∀ d < 10, Nat.digitChar d ≠ c) (rest : List Char) :
    (fixedDigits width n ++ rest).head? ≠ some c := by
  have hne := fixedDigits_ne_nil hwidth n []
  rw [List.append_nil] at hne
  obtain ⟨first, more, hcons⟩ := List.exists_cons_of_ne_nil hne
  have hfirst : first ≠ c :=
    @forall_mem_fixedDigits (· ≠ c) hc width n first (hcons ▸ List.mem_cons_self)
  rw [hcons, List.cons_append, List.head?_cons, Ne, Option.some.injEq]
  exact hfirst

end Dashes

section Dates
variable (date : Date)

def dateChars (date : Date) : List Char :=
  fixedDigits 4 date.year ++ '-' :: (fixedDigits 2 date.month ++ '-' :: fixedDigits 2 date.day)

theorem fields_lt (date : Date) : date.year < 10 ^ 4 ∧ date.month < 10 ^ 2 ∧ date.day < 10 ^ 2 := by
  have hyear := date.year_le
  have hmonth := date.month_mem.2
  have hday := Nat.le_trans date.day_mem.2 (Date.daysInMonth_le _ _)
  omega

theorem toList_date_text : date.text.toList = dateChars date := by
  obtain ⟨hyear, hmonth, hday⟩ := fields_lt date
  simp only [Date.text, String.toList_append, toList_padded (by decide) hyear,
    toList_padded (by decide) hmonth, toList_padded (by decide) hday]
  simp [dateChars]

theorem dateFields?_calendar (dashed : Bool) :
    dateFields? (fixedDigits 4 date.year ++ (dash dashed ++
      (fixedDigits 2 date.month ++ (dash dashed ++ fixedDigits 2 date.day)))) =
      some ⟨date.year, date.month, date.day⟩ := by
  obtain ⟨hyear, hmonth, hday⟩ := fields_lt date
  have hhead := @head?_dash_append dashed _ (@head?_fixedDigits_ne 2 date.month '-' (by decide) (by decide)
    (dash dashed ++ fixedDigits 2 date.day))
  have hletter := @head?_fixedDigits_ne 2 date.month 'W' (by decide) (by decide)
    (dash dashed ++ fixedDigits 2 date.day)
  simp only [dateFields?, readDigits_fixedDigits hyear, Option.bind_eq_bind, Option.bind_some, hhead,
    skipDash_dash]
  split
  · rename_i heq
    rw [heq] at hletter
    exact absurd rfl hletter
  · rw [readDigits_fixedDigits hmonth]
    simp only [Option.bind_some, skipDash_dash, readDigits_last hday]

theorem dateFields?_dateChars :
    dateFields? (dateChars date) = some ⟨date.year, date.month, date.day⟩ :=
  dateFields?_calendar date true

theorem checkDate_fields : checkDate ⟨date.year, date.month, date.day⟩ = .ok date := by
  have hyear := date.year_le
  have hpos : 0 < date.year := Date.yearOf_pos date.days
  have hmonth := date.month_mem
  have hday := date.day_mem
  simp only [checkDate, Date.count_fields, Date.ofDays?_days]
  rw [if_neg (by omega), if_neg (by omega), if_neg (by omega)]

theorem dateLength_dateChars (rest : List Char) : dateLength (dateChars date ++ rest) = 10 := by
  have hletter : ∀ d < 10, Nat.digitChar d ≠ 'W' := by decide
  have hdash : (dateChars date ++ rest)[4]? = some '-' := rfl
  have hdigit : (dateChars date ++ rest)[5]? = some (Nat.digitChar (date.month / 10 % 10)) := rfl
  have hlength : (dateChars date).length = 10 := rfl
  have hfirst := hletter _ (Nat.mod_lt (date.month / 10) (show 0 < 10 by decide))
  simp only [dateLength, hdash, hdigit, List.length_append, hlength]
  rw [if_neg (by omega), if_pos trivial, if_neg (by simp [hfirst])]

end Dates

section Stamps
variable {size : Nat} {stamp : Timestamp}

theorem checkClock_showing (h : size < 86400000000) : checkClock (showing size) = .ok ⟨size, h⟩ := by
  obtain ⟨hhour, hminute, hsecond, _⟩ := showing_lt h
  have hsum : ((showing size).hour * 3600 + (showing size).minute * 60 + (showing size).second) *
      1000000 + (showing size).microsecond = size := by
    simp only [showing]
    omega
  simp only [checkClock, hsum]
  rw [if_neg (by omega), if_neg (by omega), if_neg (by omega)]
  exact congrArg Except.ok (Fin.ext (Nat.mod_eq_of_lt h))

def offsetChars : Option Offset → List Char
  | none => []
  | some offset => signOf offset :: sizeChars offset

theorem timeFields?_chars (h : size < 86400000000) (offset : Option Offset) :
    timeFields? (minuteChars size ++ secondChars size ++ offsetChars offset) =
      some ⟨showing size, offset.map fun offset => (reread offset).micros⟩ := by
  have hunsigned : ∀ c ∈ minuteChars size ++ secondChars size, (!isSign c) = true := by
    have hdigit : ∀ d < 10, (!isSign (Nat.digitChar d)) = true := by decide
    intro c hc
    rcases List.mem_append.mp hc with hc | hc
    · exact forall_mem_minuteChars (p := fun c => (!isSign c) = true) hdigit rfl c hc
    · exact forall_mem_secondChars (p := fun c => (!isSign c) = true) hdigit rfl rfl c hc
  have hstop : (offsetChars offset).takeWhile (!isSign ·) = [] ∧
      (offsetChars offset).dropWhile (!isSign ·) = offsetChars offset := by
    cases offset with
    | none => exact ⟨rfl, rfl⟩
    | some offset =>
      have hsign : ¬ (!isSign (signOf offset)) = true := by
        unfold signOf
        split <;> exact Bool.false_ne_true
      exact ⟨List.takeWhile_cons_of_neg hsign, List.dropWhile_cons_of_neg hsign⟩
  unfold timeFields?
  rw [List.takeWhile_append_of_pos hunsigned, List.dropWhile_append_of_pos hunsigned,
    hstop.1, hstop.2, List.append_nil, clock?_secondChars h]
  cases offset with
  | none => rfl
  | some offset =>
    simp only [offsetChars, Option.bind_eq_bind, Option.bind_some, clock?_sizeChars,
      offsetMicros_showing]
    rfl

theorem toList_isoText (stamp : Timestamp) : stamp.isoText.toList =
    dateChars stamp.reading.date ++ 'T' :: (minuteChars stamp.reading.timeOfDay ++
      secondChars stamp.reading.timeOfDay ++ offsetChars stamp.offset) := by
  have hhour : stamp.reading.hour < 10 ^ 2 := Nat.lt_trans stamp.reading.hour_lt (by decide)
  have hminute : stamp.reading.minute < 10 ^ 2 := Nat.lt_trans stamp.reading.minute_lt (by decide)
  have hsecond : stamp.reading.second < 10 ^ 2 := Nat.lt_trans stamp.reading.second_lt (by decide)
  have hoffset : ((stamp.offset.map Offset.text).getD "").toList = offsetChars stamp.offset := by
    cases stamp.offset with
    | none => rfl
    | some offset => exact toList_offset_text offset
  simp only [Timestamp.isoText, Timestamp.text, Reading.text, String.toList_append, toList_date_text,
    hoffset, toList_padded (by decide) hhour, toList_padded (by decide) hminute,
    toList_padded (by decide) hsecond, toList_fractionText stamp.reading.microsecond_lt]
  simp [minuteChars, secondChars, showing, Reading.hour, Reading.minute, Reading.second,
    Reading.microsecond]

theorem range_isoText (stamp : Timestamp) :
    ∀ c ∈ stamp.isoText.toList, 0x20 < c.toNat ∧ c.toNat < 'Z'.toNat := by
  let p (c : Char) : Prop := 0x20 < c.toNat ∧ c.toNat < 'Z'.toNat
  have hdigit : ∀ d < 10, p (Nat.digitChar d) := by
    intro d hd
    have hlast : 'Z'.toNat = 90 := rfl
    simp only [p, Nat.toNat_digitChar_of_lt_ten hd]
    omega
  have hother : p '-' ∧ p 'T' ∧ p ':' ∧ p '.' ∧ p '+' := by simp [p]
  obtain ⟨hdash, hletter, hcolon, hpoint, hplus⟩ := hother
  have hminute (size : Nat) := @forall_mem_minuteChars size p hdigit hcolon
  have hsecond (size : Nat) := @forall_mem_secondChars size p hdigit hcolon hpoint
  have hfixed := forall_mem_fixedDigits hdigit
  have hoffset : ∀ c ∈ offsetChars stamp.offset, p c := by
    cases stamp.offset with
    | none => exact nofun
    | some offset =>
      simp only [offsetChars, sizeChars, List.forall_mem_cons, List.forall_mem_append]
      refine ⟨?_, hminute _, ?_⟩
      · unfold signOf
        split
        · exact hdash
        · exact hplus
      · split
        · exact nofun
        · exact hsecond _
  simp only [toList_isoText, dateChars, List.forall_mem_append, List.forall_mem_cons]
  exact ⟨⟨hfixed 4 _, hdash, hfixed 2 _, hdash, hfixed 2 _⟩, hletter, ⟨hminute _, hsecond _⟩, hoffset⟩

theorem flatMap_eq_self {f : Char → List Char} (h : ∀ c ∈ text, f c = [c]) : text.flatMap f = text := by
  rw [List.flatMap_congr h, List.flatMap_singleton']

theorem stampFields?_isoText (stamp : Timestamp) : stampFields? stamp.isoText.toList =
    some (⟨stamp.reading.date.year, stamp.reading.date.month, stamp.reading.date.day⟩,
      ⟨showing stamp.reading.timeOfDay, stamp.offset.map fun offset => (reread offset).micros⟩) := by
  have hascii : ∀ c ∈ stamp.isoText.toList, c.toNat < 0x80 :=
    fun c hc => Nat.lt_trans (range_isoText stamp c hc).2 (by decide)
  have htime := timeFields?_chars stamp.reading.timeOfDay_lt stamp.offset
  rw [toList_isoText] at hascii ⊢
  generalize minuteChars stamp.reading.timeOfDay ++ secondChars stamp.reading.timeOfDay ++
    offsetChars stamp.offset = time at hascii htime ⊢
  have hlength : (dateChars stamp.reading.date).length = 10 := rfl
  have hdate := dateFields?_dateChars stamp.reading.date
  have htake : (dateChars stamp.reading.date ++ 'T' :: time).take 10 = dateChars stamp.reading.date :=
    List.take_left' hlength
  have hdrop : (dateChars stamp.reading.date ++ 'T' :: time).drop 10 = 'T' :: time :=
    List.drop_left' hlength
  have hspread : spread time = time :=
    flatMap_eq_self fun c hc => if_pos (hascii c (List.mem_append_right _ (List.mem_cons_of_mem _ hc)))
  simp only [stampFields?, dateLength_dateChars, htake, hdrop, hspread, hdate, htime,
    Option.bind_eq_bind, Option.bind_some]
  rw [if_neg]
  rw [List.length_append, hlength]
  omega

end Stamps

end Iso

open Iso

/-- A written timestamp is read as it was, but for an offset of less than a second. -/
theorem Timestamp.ofIso_isoText (stamp : Timestamp) :
    ofIso stamp.isoText = .ok ⟨stamp.reading, stamp.offset.map reread⟩ := by
  have hoffset : checkOffset (stamp.offset.map fun offset => (reread offset).micros) =
      .ok (stamp.offset.map reread) := by
    cases stamp.offset with
    | none => rfl
    | some offset =>
      have hbound := (reread offset).bounded
      simp only [Option.map_some, checkOffset, Offset.ofMicros?]
      rw [dif_pos hbound]
  have hreading : Reading.ofDate stamp.reading.date ⟨_, stamp.reading.timeOfDay_lt⟩ = stamp.reading := by
    rw [Reading.mk.injEq]
    exact Nat.div_add_mod' stamp.reading.micros 86400000000
  rw [ofIso, stampFields?_isoText]
  simp only [hoffset, checkDate_fields, checkClock_showing stamp.reading.timeOfDay_lt, bind,
    Except.bind, pure, Except.pure, hreading]

end GridQuery
