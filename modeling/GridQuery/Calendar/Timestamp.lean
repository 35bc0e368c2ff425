import GridQuery.Calendar.Date

/-!
# Clock readings and instants

A reading is a date with a time of day, in microseconds.  With its offset from UTC it is an instant;
a timestamp is a reading that may or may not come with an offset.
-/

namespace GridQuery

/-- What a clock on the wall shows: the microseconds since the start of year 1. -/
structure Reading where
  micros : Nat
  micros_lt : micros < 3652059 * 86400000000
deriving DecidableEq

theorem Reading.zero_lt : 0 < 3652059 * 86400000000 := by decide

/-- How far a clock is ahead of UTC, in microseconds: less than a day either way. -/
structure Offset where
  micros : Int
  bounded : -86400000000 < micros ∧ micros < 86400000000
deriving DecidableEq

structure Instant where
  reading : Reading
  offset : Offset
deriving DecidableEq

structure Timestamp where
  reading : Reading
  offset : Option Offset
deriving DecidableEq

def padded (width n : Nat) : String :=
  let digits := Nat.toDigits 10 n
  String.ofList (List.replicate (width - digits.length) '0' ++ digits)

namespace Date

def text (date : Date) : String :=
  padded 4 date.year ++ "-" ++ padded 2 date.month ++ "-" ++ padded 2 date.day

end Date

namespace Reading

def ofMicros? (micros : Int) : Option Reading :=
  if h : 0 ≤ micros ∧ micros < 3652059 * 86400000000 then some ⟨micros.toNat, by omega⟩ else none

def shift? (reading : Reading) (micros : Int) : Option Reading := ofMicros? (reading.micros + micros)

def date (reading : Reading) : Date :=
  ⟨reading.micros / 86400000000, by have := reading.micros_lt; omega⟩

def timeOfDay (reading : Reading) : Nat := reading.micros % 86400000000

def midnight (date : Date) : Reading :=
  ⟨date.days * 86400000000, by have := date.days_lt; omega⟩

def ofDate (date : Date) (time : Fin 86400000000) : Reading :=
  ⟨date.days * 86400000000 + time, by have := date.days_lt; have := time.isLt; omega⟩

def hour (reading : Reading) : Nat := reading.timeOfDay / 3600000000

def minute (reading : Reading) : Nat := reading.timeOfDay / 60000000 % 60

def second (reading : Reading) : Nat := reading.timeOfDay / 1000000 % 60

def microsecond (reading : Reading) : Nat := reading.timeOfDay % 1000000

def fractionText (micros : Nat) : String := if micros = 0 then "" else "." ++ padded 6 micros

def text (reading : Reading) (separator : String) : String :=
  reading.date.text ++ separator ++ padded 2 reading.hour ++ ":" ++ padded 2 reading.minute ++ ":" ++
    padded 2 reading.second ++ fractionText reading.microsecond

/-- The form that a store keeps readings in: of one length, so that texts sort as readings do. -/
def sortableText (reading : Reading) : String :=
  reading.date.text ++ " " ++ padded 2 reading.hour ++ ":" ++ padded 2 reading.minute ++ ":" ++
    padded 2 reading.second ++ "." ++ padded 6 reading.microsecond

end Reading

namespace Offset

def utc : Offset := ⟨0, by omega⟩

def ofMicros? (micros : Int) : Option Offset :=
  if h : -86400000000 < micros ∧ micros < 86400000000 then some ⟨micros, h⟩ else none

def text (offset : Offset) : String :=
  let size := offset.micros.natAbs
  let seconds := size / 1000000
  (if offset.micros < 0 then "-" else "+") ++ padded 2 (seconds / 3600) ++ ":" ++
    padded 2 (seconds / 60 % 60) ++
    (if size % 60000000 = 0 then ""
     else ":" ++ padded 2 (seconds % 60) ++ Reading.fractionText (size % 1000000))

end Offset

namespace Instant

def micros (instant : Instant) : Int := instant.reading.micros - instant.offset.micros

def toUtc? (instant : Instant) : Option Reading := Reading.ofMicros? instant.micros

def ofUtc (reading : Reading) : Instant := ⟨reading, .utc⟩

def toTimestamp (instant : Instant) : Timestamp := ⟨instant.reading, some instant.offset⟩

end Instant

namespace Timestamp

def text (stamp : Timestamp) (separator : String) : String :=
  stamp.reading.text separator ++ (stamp.offset.map Offset.text).getD ""

def isoText (stamp : Timestamp) : String := stamp.text "T"

end Timestamp

def Instant.isoText (instant : Instant) : String := instant.toTimestamp.isoText

end GridQuery
