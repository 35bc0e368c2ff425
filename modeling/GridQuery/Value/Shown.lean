import GridQuery.Calendar.Fault
import GridQuery.Value.Basic

/-!
# Values as messages show them

Texts are quoted, dates and times are given part by part, and lists and objects in brackets.
-/

namespace GridQuery

namespace Value

def dateParts (date : Date) : List Nat := [date.year, date.month, date.day]

def timeParts (reading : Reading) : List Nat :=
  [reading.hour, reading.minute] ++
    (if reading.second = 0 ∧ reading.microsecond = 0 then []
     else if reading.microsecond = 0 then [reading.second]
     else [reading.second, reading.microsecond])

def offsetShown (offset : Offset) : String :=
  if offset.micros = 0 then "tzinfo=datetime.timezone.utc"
  else "tzinfo=datetime.timezone(" ++ CalendarFault.spanText offset.micros ++ ")"

def dateShown (date : Date) : String :=
  "datetime.date(" ++ ", ".intercalate ((dateParts date).map toString) ++ ")"

def timeShown (stamp : Timestamp) : String :=
  let parts := dateParts stamp.reading.date ++ timeParts stamp.reading
  "datetime.datetime(" ++
    ", ".intercalate (parts.map toString ++ (stamp.offset.map offsetShown).toList) ++ ")"

mutual

def shown : Value → String
  | null => "None"
  | bool b => if b then "True" else "False"
  | int n => toString n
  | real x => x.text
  | text s => String.ofList (Text.quoted s.toList)
  | date d => dateShown d
  | time t => timeShown t
  | list items => "[" ++ ", ".intercalate (shownItems items) ++ "]"
  | object fields => "\x7b" ++ ", ".intercalate (shownFields fields) ++ "\x7d"

def shownItems : List Value → List String
  | [] => []
  | item :: items => shown item :: shownItems items

def shownFields : List (String × Value) → List String
  | [] => []
  | (name, value) :: fields =>
    (String.ofList (Text.quoted name.toList) ++ ": " ++ shown value) :: shownFields fields

end

/-- The value as plain text: a text itself, and everything else as messages show it. -/
def plain : Value → String
  | text s => s
  | date d => d.text
  | time t => t.text " "
  | value => shown value

end Value

end GridQuery
