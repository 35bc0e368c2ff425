import GridQuery.Calendar.Fault
import GridQuery.Calendar.Timestamp
import GridQuery.Text.Digit

/-!
# ISO 8601 text

Dates are written with or without dashes, by month and day or by week and weekday.  A time of day
follows after one separator character of any kind, with or without colons, and may be cut short
after the hour or the minute; a fraction keeps six digits.  An offset follows with its sign.  Only
ASCII digits count.
-/

namespace GridQuery

namespace Iso

def readDigits : (count start : Nat) → List Char → Option (Nat × List Char)
  | 0, n, text => some (n, text)
  | count + 1, n, c :: text => do readDigits count (10 * n + (← Text.asciiDigit? c)) text
  | _ + 1, _, [] => none

structure DateFields where
  year : Nat
  month : Nat
  day : Nat

/-- The day on which week 1 of a year starts, in days from 1 January of year 1: the Monday of the
week that holds the year's first Thursday. -/
def weekOne (year : Nat) : Int :=
  let first := Date.daysBeforeYear year
  if first % 7 ≤ 3 then first - first % 7 else first - first % 7 + 7

/-- A year has a week 53 if it starts on a Thursday, or is a leap year and starts on a Wednesday. -/
def hasWeek53 (year : Nat) : Bool :=
  let weekday := Date.daysBeforeYear year % 7
  weekday == 3 || (weekday == 2 && Date.isLeap year)

def ofWeek? (year week weekday : Nat) : Option DateFields :=
  if week = 0 ∨ 53 < week ∨ (week = 53 ∧ !hasWeek53 year) then none
  else if weekday = 0 ∨ 7 < weekday then none
  else if year = 0 then some ⟨1, 0, 0⟩
  else
    match Date.ofDays? (weekOne year + (week - 1) * 7 + (weekday - 1)) with
    | some date => some ⟨date.year, date.month, date.day⟩
    | none => some ⟨10000, 1, 1⟩

def skipDash (dashed : Bool) : List Char → Option (List Char)
  | '-' :: rest => if dashed then some rest else some ('-' :: rest)
  | rest => if dashed then none else some rest

def dateFields? (text : List Char) : Option DateFields := do
  let (year, rest) ← readDigits 4 0 text
  let dashed := rest.head? = some '-'
  let rest ← skipDash dashed rest
  match rest with
  | 'W' :: rest =>
    let (week, rest) ← readDigits 2 0 rest
    if rest.isEmpty then ofWeek? year week 1
    else
      let (weekday, _) ← readDigits 1 0 (← skipDash dashed rest)
      ofWeek? year week weekday
  | _ =>
    let (month, rest) ← readDigits 2 0 rest
    let (day, _) ← readDigits 2 0 (← skipDash dashed rest)
    some ⟨year, month, day⟩

/-- How long the date is that a text with a time of day starts with.  A week may be followed by a
weekday or by the separator, and both may be a dash or a digit. -/
def dateLength (text : List Char) : Nat :=
  let charAt (i : Nat) : Option Char := text[i]?
  let digitAt (i : Nat) : Bool := ((charAt i).bind Text.asciiDigit?).isSome
  if text.length = 7 then 7
  else if charAt 4 = some '-' then
    if charAt 5 = some 'W' then
      if charAt 8 = some '-' ∧ !digitAt 10 then 10 else 8
    else 10
  else if charAt 4 = some 'W' then
    let stop := 7 + ((text.drop 7).takeWhile fun c => (Text.asciiDigit? c).isSome).length
    if stop < 9 then stop else if stop % 2 = 0 then 7 else 8
  else 8

inductive Ending
  | fraction (text : List Char)
  | closed
  | open

def readFields : (count : Nat) → (colons : Option Bool) → List Char → Option (List Nat × Ending)
  | 0, _, text => some ([], .fraction text)
  | count + 1, colons, text => do
    let (field, rest) ← readDigits 2 0 text
    match rest with
    | [] => some ([field], .closed)
    | [c] => some ([field], if c = '\x00' then .closed else .open)
    | c :: more =>
      let colons := colons.getD (c = ':')
      if colons && c = ':' then
        let (fields, ending) ← readFields count (some colons) more
        some (field :: fields, ending)
      else if c = '.' ∨ c = ',' then some ([field], .fraction more)
      else if colons then none
      else
        let (fields, ending) ← readFields count (some colons) rest
        some (field :: fields, ending)

structure Clock where
  hour : Nat
  minute : Nat
  second : Nat
  microsecond : Nat
  complete : Bool

/-- The first six digits of a fraction, and whether there is nothing but digits.  U+0000 ends the
text. -/
def fraction? (text : List Char) : Option (Nat × Bool) := do
  let count := min 6 text.length
  let (digits, rest) ← readDigits count 0 text
  let left := rest.dropWhile fun c => (Text.asciiDigit? c).isSome
  some (digits * Nat.pow 10 (6 - count), left.head?.all (· = '\x00'))

def clock? (text : List Char) : Option Clock := do
  let (fields, ending) ← readFields 3 none text
  let (micros, complete) ← match ending with
    | .closed => some (0, true)
    | .open => some (0, false)
    | .fraction rest => fraction? rest
  some ⟨fields.headD 0, fields.getD 1 0, fields.getD 2 0, micros, complete⟩

structure TimeFields where
  clock : Clock
  offset : Option Int

/-- The microseconds of an offset.  One without whole seconds is that of UTC. -/
def offsetMicros (sign : Char) (clock : Clock) : Int :=
  let seconds := clock.hour * 3600 + clock.minute * 60 + clock.second
  if seconds = 0 then 0
  else
    let micros : Int := seconds * 1000000 + clock.microsecond
    if sign = '-' then -micros else micros

def isSign (c : Char) : Bool := c = '+' || c = '-'

/-- A time of day; what is left over behind it is passed over where an offset follows. -/
def timeFields? (text : List Char) : Option TimeFields := do
  let clock ← clock? (text.takeWhile (!isSign ·))
  match text.dropWhile (!isSign ·) with
  | [] => if clock.complete then some ⟨clock, none⟩ else none
  | sign :: rest =>
    let ahead ← clock? rest
    if ahead.complete then some ⟨clock, some (offsetMicros sign ahead)⟩ else none

/-- A character outside ASCII takes more than one place, none of them readable. -/
def spread (text : List Char) : List Char :=
  text.flatMap fun c => if c.toNat < 0x80 then [c] else [c, c]

def checkDate (fields : DateFields) : Except CalendarFault Date :=
  if fields.year = 0 ∨ 9999 < fields.year then .error (.year fields.year)
  else if fields.month = 0 ∨ 12 < fields.month then .error .month
  else if fields.day = 0 ∨ Date.daysInMonth fields.year fields.month < fields.day then .error .day
  else match Date.ofDays? (Date.count fields.year fields.month fields.day) with
    | some date => .ok date
    | none => .error .day

def checkClock (clock : Clock) : Except CalendarFault (Fin 86400000000) :=
  if 23 < clock.hour then .error .hour
  else if 59 < clock.minute then .error .minute
  else if 59 < clock.second then .error .second
  else
    let seconds := clock.hour * 3600 + clock.minute * 60 + clock.second
    .ok (Fin.ofNat 86400000000 (seconds * 1000000 + clock.microsecond))

/-- An offset of a day or more is found before anything else. -/
def checkOffset : Option Int → Except CalendarFault (Option Offset)
  | none => .ok none
  | some micros => match Offset.ofMicros? micros with
    | some offset => .ok (some offset)
    | none => .error (.offset micros)

def stampFields? (text : List Char) : Option (DateFields × TimeFields) := do
  if text.length < 7 then none
  else
    let split := dateLength text
    let date ← dateFields? (text.take split)
    match text.drop split with
    | [] => some (date, ⟨⟨0, 0, 0, 0, true⟩, none⟩)
    | _ :: time => some (date, ← timeFields? (spread time))

end Iso

def Date.ofIso (text : String) : Except CalendarFault Date :=
  if text.toList.any (0x80 ≤ ·.toNat) then .error (.notIso text)
  else match Iso.dateFields? text.toList with
    | some fields => Iso.checkDate fields
    | none => .error (.notIso text)

def Timestamp.ofIso (text : String) : Except CalendarFault Timestamp :=
  match Iso.stampFields? text.toList with
  | none => .error (.notIso text)
  | some (date, time) => do
    let offset ← Iso.checkOffset time.offset
    let date ← Iso.checkDate date
    return ⟨.ofDate date (← Iso.checkClock time.clock), offset⟩

end GridQuery
