import GridQuery.Calendar.Timestamp
import GridQuery.Number.Written

/-!
# Values

What a cell can hold and what a filter can ask for: the values of JSON, with whole numbers of any
size beside doubles, and dates and timestamps.  The fields of an object keep their order.
-/

namespace GridQuery

inductive Value
  | null
  | bool (b : Bool)
  | int (n : Int)
  | real (x : Double)
  | text (s : String)
  | date (d : Date)
  | time (t : Timestamp)
  | list (items : List Value)
  | object (fields : List (String × Value))
deriving Inhabited

namespace Value

def kind : Value → String
  | null => "NoneType"
  | bool _ => "bool"
  | int _ => "int"
  | real _ => "float"
  | text _ => "str"
  | date _ => "date"
  | time _ => "datetime"
  | list _ => "list"
  | object _ => "dict"

def fullKind : Value → String
  | date _ => "datetime.date"
  | time _ => "datetime.datetime"
  | value => value.kind

def isNull : Value → Bool
  | null => true
  | _ => false

def isTruthy : Value → Bool
  | null => false
  | bool b => b
  | int n => n != 0
  | real x => x.place? != some 0
  | text s => s != ""
  | date _ | time _ => true
  | list items => !items.isEmpty
  | object fields => !fields.isEmpty

def field? (value : Value) (name : String) : Option Value :=
  match value with
  | object fields => (fields.find? (·.1 == name)).map (·.2)
  | _ => none

end Value

/-- The fields with the first one of a name replaced, or with a new one at the end. -/
def setField {α : Type} (name : String) (value : α) : List (String × α) → List (String × α)
  | [] => [(name, value)]
  | (other, old) :: fields =>
    if other = name then (name, value) :: fields else (other, old) :: setField name value fields

/-- The fields sorted by name, in the order of code points. -/
def sortFields {α : Type} (fields : List (String × α)) : List (String × α) :=
  fields.mergeSort fun a b => decide (a.1 ≤ b.1)

end GridQuery
