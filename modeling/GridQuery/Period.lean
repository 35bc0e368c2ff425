import GridQuery.Calendar.Zone
import GridQuery.Operator

/-!
# Periods

The days that a period operator means at a reading of the clock, and the instants between which they
lie.  A day ends with its last millisecond, and a week starts on Sunday.
-/

namespace GridQuery

def periodDays (today : Date) : Operator → Option (Option Date × Option Date)
  | .today => some (some today, some today)
  | .yesterday => some (today.shift? (-1), today.shift? (-1))
  | .thisWeek =>
    let first := today.shift? (-((today.weekday + 1) % 7 : Nat))
    some (first, first.bind (·.shift? 6))
  | .thisMonth =>
    let length : Int := Date.daysInMonth today.year today.month
    some (today.shift? (1 - (today.day : Int)), today.shift? (length - today.day))
  | .thisYear =>
    some (Date.ofDays? (Date.count today.year 1 1), Date.ofDays? (Date.count today.year 12 31))
  | _ => none

def lastMilli : Fin 86400000000 := ⟨86399999000, by decide⟩

inductive PeriodFault
  | notAPeriod (operator : Option Operator)
  | calendar (fault : CalendarFault)

def Operator.label (operator : Operator) : String := "FilterOperator." ++ operator.name.toUpper

def PeriodFault.message : PeriodFault → String
  | notAPeriod operator => (operator.map Operator.label).getD "None" ++ " is not a period operator"
  | calendar fault => fault.message

/-- Whether the clock runs in the local zone: it gives no offset, or the one in force there. -/
def inLocalZone (zone : Zone) (now : Timestamp) : Except CalendarFault Bool :=
  match now.offset with
  | none => .ok true
  | some offset => do return (← zone.onClock ⟨now.reading, offset⟩).offset = offset

/-- The instant of a reading on the same clock: with the local offset of its own day in the local zone,
with the offset of the clock in any other. -/
def attachTo (zone : Zone) (now : Timestamp) (reading : Reading) : Except CalendarFault Instant := do
  if ← inLocalZone zone now then zone.attach reading
  else return ⟨reading, now.offset.getD .utc⟩

def periodRange (zone : Zone) (operator : Operator) (now : Timestamp) :
    Except PeriodFault (Instant × Instant) :=
  match periodDays now.reading.date operator with
  | none => .error (.notAPeriod (some operator))
  | some (some first, some last) =>
    match attachTo zone now (.midnight first), attachTo zone now (.ofDate last lastMilli) with
    | .ok start, .ok stop => .ok (start, stop)
    | .error fault, _ => .error (.calendar fault)
    | _, .error fault => .error (.calendar fault)
  | some _ => .error (.calendar .outOfRange)

end GridQuery
