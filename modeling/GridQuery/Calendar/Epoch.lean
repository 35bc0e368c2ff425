import GridQuery.Calendar.Fault
import GridQuery.Calendar.Timestamp
import GridQuery.Number.Double

/-!
# Milliseconds since 1970

Numbers name instants by counting milliseconds from the start of 1970 in UTC.  A fraction of a
millisecond is rounded to whole microseconds, a half going to the even neighbour.
-/

namespace GridQuery

def epochMicros : Int := 719162 * 86400000000

/-- The instant some microseconds after the start of 1970.  A span of time counts its days in 32 bits
and has at most 999999999 of them. -/
def Instant.ofEpoch (micros : Int) : Except CalendarFault Instant :=
  let days := Int.fdiv micros 86400000000
  if days < -2147483648 ∨ 2147483647 < days then .error .daysTooLong
  else if 999999999 < days.natAbs then .error (.daysTooMany days)
  else match Reading.ofMicros? (epochMicros + micros) with
    | some reading => .ok (.ofUtc reading)
    | none => .error .outOfRange

/-- The microseconds in a size counted in milliseconds.  The fraction is scaled as a double before it
is rounded, and the whole part decides which neighbour is even. -/
def Magnitude.millisToMicros (m : Magnitude) : Nat :=
  let scaled := Magnitude.ofRatio (m.fraction * 1000) Magnitude.unitsPerOne
  roundHalfEven (m.whole * 1000 * Magnitude.unitsPerOne + scaled.units) Magnitude.unitsPerOne

def Instant.ofMillis : Double → Except CalendarFault Instant
  | .nan => .error .notANumber
  | .signed negative m =>
    if m.isFinite then
      Instant.ofEpoch (if negative then -m.millisToMicros else m.millisToMicros)
    else .error .infinite

end GridQuery
