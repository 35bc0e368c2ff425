import GridQuery.Text.Quoted

/-!
# What can be wrong with a date or a time
-/

namespace GridQuery

inductive CalendarFault
  | notIso (text : String)
  | year (given : Int)
  | month
  | day
  | hour
  | minute
  | second
  | offset (micros : Int)
  | outOfRange
  | daysTooLong
  /-- A count of days that is in 32 bits, and yet beyond any span of time. -/
  | daysTooMany (days : Int)
  | notANumber
  | infinite
deriving DecidableEq

namespace CalendarFault

/-- The parts of a span of time that are not zero, or a lone `0`. -/
def spanText (micros : Int) : String :=
  let days := Int.fdiv micros 86400000000
  let rest := Int.fmod micros 86400000000
  let parts := [("days=", days), ("seconds=", rest / 1000000), ("microseconds=", rest % 1000000)]
  let shown := (parts.filter (·.2 ≠ 0)).map fun part => part.1 ++ toString part.2
  "datetime.timedelta(" ++ (if shown.isEmpty then "0" else ", ".intercalate shown) ++ ")"

def message : CalendarFault → String
  | notIso text => "Invalid isoformat string: " ++ String.ofList (Text.quoted text.toList)
  | year given => "year " ++ toString given ++ " is out of range"
  | month => "month must be in 1..12"
  | day => "day is out of range for month"
  | hour => "hour must be in 0..23"
  | minute => "minute must be in 0..59"
  | second => "second must be in 0..59"
  | offset micros =>
    "offset must be a timedelta strictly between -timedelta(hours=24) and timedelta(hours=24), not "
      ++ spanText micros ++ "."
  | outOfRange => "date value out of range"
  | daysTooLong => "Python int too large to convert to C int"
  | daysTooMany days => "days=" ++ toString days ++ "; must have magnitude <= 999999999"
  | notANumber => "cannot convert float NaN to integer"
  | infinite => "cannot convert float infinity to integer"

def isOverflow : CalendarFault → Bool
  | outOfRange | daysTooLong | daysTooMany _ | infinite => true
  | _ => false

end CalendarFault

end GridQuery
