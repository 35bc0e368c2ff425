import GridQuery.Calendar.Zone
import GridQuery.Text.Digit

/-!
# Written zones

The one-line form of a zone: a name and how far its clocks are behind UTC, then the same for summer
time, then the days of the two changeovers, `Mmonth.week.weekday`, `Jday` or `day`, with a time after a
slash.  Summer time is an hour ahead and the changeovers are at two o'clock, unless the line says
otherwise.
-/

namespace GridQuery

namespace ZoneText

def number? (text : List Char) : Option (Nat × List Char) :=
  let digits := text.takeWhile fun c => (Text.asciiDigit? c).isSome
  if digits.isEmpty then none
  else some (Text.ofDigits (digits.filterMap Text.asciiDigit?), text.drop digits.length)

def time? (text : List Char) : Option (Int × List Char) := do
  let (sign, text) : Int × List Char := match text with
    | '-' :: rest => (-1, rest)
    | '+' :: rest => (1, rest)
    | rest => (1, rest)
  let (hours, text) ← number? text
  let (minutes, text) ← match text with
    | ':' :: rest => number? rest
    | rest => some (0, rest)
  let (seconds, text) ← match text with
    | ':' :: rest => number? rest
    | rest => some (0, rest)
  some (sign * (hours * 3600 + minutes * 60 + seconds : Nat), text)

def skipName : List Char → List Char
  | '<' :: rest => (rest.dropWhile (· ≠ '>')).drop 1
  | rest => rest.dropWhile Char.isAlpha

def offset? (behind : Int) : Option Offset := Offset.ofMicros? (-behind * 1000000)

def changeDay? (text : List Char) : Option (ChangeDay × List Char) := do
  match text with
  | 'M' :: text =>
    let (month, text) ← number? text
    let (week, text) ← number? (text.drop 1)
    let (weekday, text) ← number? (text.drop 1)
    if 1 ≤ month ∧ month ≤ 12 ∧ 1 ≤ week ∧ week ≤ 5 ∧ weekday ≤ 6 then
      some (.inMonth month week weekday, text)
    else none
  | 'J' :: text =>
    let (day, text) ← number? text
    if 1 ≤ day ∧ day ≤ 365 then some (.unleaped day, text) else none
  | text =>
    let (day, text) ← number? text
    if day ≤ 365 then some (.numbered day, text) else none

def changeover? (text : List Char) : Option (Changeover × List Char) := do
  let (day, text) ← changeDay? text
  match text with
  | '/' :: text =>
    let (seconds, text) ← time? text
    some (⟨day, seconds⟩, text)
  | text => some (⟨day, 7200⟩, text)

def summer? (behind : Int) (text : List Char) : Option Summer := do
  let text := skipName text
  let (summerBehind, text) := (time? text).getD (behind - 3600, text)
  let (start, text) ← changeover? (text.drop 1)
  let (stop, _) ← changeover? (text.drop 1)
  some ⟨← offset? summerBehind, start, stop⟩

end ZoneText

/-- The zone of a line; one that cannot be read means UTC. -/
def Zone.ofText (text : String) : Zone :=
  match ZoneText.time? (ZoneText.skipName text.toList) with
  | none => .utc
  | some (behind, rest) =>
    match ZoneText.offset? behind with
    | none => .utc
    | some standard => ⟨standard, if rest.isEmpty then none else ZoneText.summer? behind rest⟩

end GridQuery
