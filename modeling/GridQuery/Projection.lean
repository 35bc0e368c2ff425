import GridQuery.Coercion

/-!
# Projections

What a store keeps beside the raw value of a cell, so that it can be compared: its canonical text,
and the number, boolean or instant that it is in the family of its column.  Instants are kept as readings
of a clock in UTC; a timestamp without offset is taken to be one already.
-/

namespace GridQuery

structure Projections where
  text : Option String
  number : Option Double
  flag : Option Bool
  instant : Option Instant

namespace Projections

def of (zone : Zone) (type : String) (value : Value) : Projections where
  text := value.canonicalText? type
  number := match Family.ofType type with
    | .numeric => value.toNumber.toOption
    | _ => none
  flag := match Family.ofType type with
    | .boolean => value.toBoolean.toOption
    | _ => none
  instant := match Family.ofType type with
    | .date => (value.toInstant zone).toOption
    | _ => none

end Projections

namespace Timestamp

def stored (stamp : Timestamp) : Except CalendarFault Reading :=
  match stamp.offset with
  | none => .ok stamp.reading
  | some offset => match Instant.toUtc? ⟨stamp.reading, offset⟩ with
    | some reading => .ok reading
    | none => .error .outOfRange

def restored (stamp : Timestamp) : Except CalendarFault Instant :=
  stamp.stored.map Instant.ofUtc

end Timestamp

def Instant.storedText? (instant : Instant) : Option String :=
  instant.toUtc?.map Reading.sortableText

end GridQuery
