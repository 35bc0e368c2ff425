import GridQuery.Calendar.Fault
import GridQuery.Calendar.Timestamp

/-!
# Time zones

A zone has a standard offset and may have a summer offset, in force each year between two moments
that are given as days of the year.  The year of a moment in UTC selects the two; before 1970 they are
moments of 1970, so that only their order matters.

A clock reading in a zone can name two instants when clocks are set back, and then it is the earlier
one.  It can name none when they are set forward; then it is read with the offset that comes into
force.
-/

namespace GridQuery

/-- A day of the year: the `week`-th given weekday (Sunday is 0) of a month, the last one for week 5; a
number from 1 that passes over 29 February; or a number from 0. -/
inductive ChangeDay
  | inMonth (month week weekday : Nat)
  | unleaped (day : Nat)
  | numbered (day : Nat)
deriving DecidableEq

structure Changeover where
  day : ChangeDay
  seconds : Int
deriving DecidableEq

structure Summer where
  offset : Offset
  start : Changeover
  stop : Changeover
deriving DecidableEq

structure Zone where
  standard : Offset
  summer : Option Summer
deriving DecidableEq

namespace Zone

def utc : Zone := ⟨.utc, none⟩

end Zone

/-- The year that a day falls into; days before year 1 count from the cycle of 400 years before. -/
def yearOfDay (days : Int) : Int := (Date.yearOf (days + 146097).toNat : Int) - 400

def ChangeDay.inYear (year : Nat) : ChangeDay → Int
  | inMonth month week weekday =>
    let before := Date.daysBeforeMonth year month
    let first : Int := (Date.daysBeforeYear year + before : Nat)
    let ahead := ((weekday : Int) - (first + 1)) % 7
    let day := ahead + 7 * (week - 1)
    before + if day < Date.daysInMonth year month then day else day - 7
  | unleaped day => if 60 ≤ day ∧ Date.isLeap year then day else (day : Int) - 1
  | numbered day => day

/-- The microseconds from the start of year 1 to the changeover in a year, on the clock that is in force
until then.  Years before 1970 begin with 1970 here, but have a calendar of their own. -/
def Changeover.reading (change : Changeover) (year : Int) : Int :=
  (Date.daysBeforeYear (max 1970 year).toNat + change.day.inYear (year + 400).toNat) * 86400000000 +
    change.seconds * 1000000

namespace Summer

def inForce (summer : Summer) (standard : Offset) (moment : Int) : Bool :=
  let year := yearOfDay (Int.fdiv moment 86400000000)
  let start := summer.start.reading year - standard.micros
  let stop := summer.stop.reading year - summer.offset.micros
  if stop < start then moment < stop || start ≤ moment else start ≤ moment && moment < stop

end Summer

namespace Zone

def offsetAt (zone : Zone) (moment : Int) : Offset :=
  match zone.summer with
  | some summer => if summer.inForce zone.standard moment then summer.offset else zone.standard
  | none => zone.standard

def clockAt (zone : Zone) (moment : Int) : Except CalendarFault Int :=
  let shown := moment + (zone.offsetAt moment).micros
  if 0 ≤ shown ∧ shown < 3652059 * 86400000000 then .ok shown
  else .error (.year (yearOfDay (Int.fdiv shown 86400000000)))

def momentOf (zone : Zone) (shown : Int) : Except CalendarFault Int := do
  let ahead := (← zone.clockAt shown) - shown
  let first := shown - ahead
  let firstShown ← zone.clockAt first
  let behind ←
    if firstShown = shown then
      let dayBefore := first - 86400000000
      pure ((← zone.clockAt dayBefore) - dayBefore)
    else pure (firstShown - first)
  if firstShown = shown ∧ ahead = behind then return first
  else
    let second := shown - behind
    let secondShown ← zone.clockAt second
    if secondShown = shown then return second
    else if firstShown = shown then return first
    else return max first second

def ofUtc (zone : Zone) (reading : Reading) : Except CalendarFault Instant :=
  let offset := zone.offsetAt reading.micros
  match reading.shift? offset.micros with
  | some shown => .ok ⟨shown, offset⟩
  | none => .error .outOfRange

def onClock (zone : Zone) (instant : Instant) : Except CalendarFault Instant :=
  match instant.toUtc? with
  | some reading => zone.ofUtc reading
  | none => .error .outOfRange

def attach (zone : Zone) (reading : Reading) : Except CalendarFault Instant := do
  let moment ← zone.momentOf reading.micros
  zone.onClock ⟨reading, zone.offsetAt moment⟩

def instantOf (zone : Zone) (stamp : Timestamp) : Except CalendarFault Instant :=
  match stamp.offset with
  | some offset => .ok ⟨stamp.reading, offset⟩
  | none => zone.attach stamp.reading

end Zone

end GridQuery
