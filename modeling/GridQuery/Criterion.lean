import GridQuery.FieldError
import GridQuery.Value.Basic

/-!
# Criteria

A criterion is one filter that a client asks for: a column, an operator and the values it needs.  The
name and the type of the column are echoes; some requests have to give them, none is judged by them.
-/

namespace GridQuery

structure Criterion where
  columnId : Int
  operator : String
  value : Value
  secondValue : Value
  columnName : Option String
  columnType : Option String
  columnId_pos : 0 < columnId
  operator_ne : operator ≠ ""

namespace Criterion

/-- A field under its first name, or else under its second; the name it is found under. -/
def fieldUnder (payload : Value) (name other : String) : String × Option Value :=
  match payload.field? name with
  | some value => (name, some value)
  | none =>
    match payload.field? other with
    | some value => (other, some value)
    | none => (name, none)

def checkId : String × Option Value → Except FieldError { id : Int // 0 < id }
  | (field, some (.int n)) => if h : 0 < n then .ok ⟨n, h⟩ else .error ⟨field, .notPositive⟩
  | (field, some _) => .error ⟨field, .notInteger⟩
  | (field, none) => .error ⟨field, .missing⟩

def checkText : String × Option Value → Except FieldError { s : String // s ≠ "" }
  | (field, some (.text s)) => if h : s ≠ "" then .ok ⟨s, h⟩ else .error ⟨field, .emptyText⟩
  | (field, some _) => .error ⟨field, .notText⟩
  | (field, none) => .error ⟨field, .missing⟩

/-- An echo that has to be given, and not empty, or may be left out or null. -/
def checkEcho (required : Bool) (field : String × Option Value) :
    Except FieldError (Option String) :=
  if required then (checkText field).map fun s => some s.1
  else match field with
    | (_, none) | (_, some .null) => .ok none
    | (_, some (.text s)) => .ok (some s)
    | (field, some _) => .error ⟨field, .notText⟩

def shape (echoed : Bool) : String := if echoed then "FilterCriterionPayload" else "FilterCriterion"

def ofPayload (echoed : Bool) (payload : Value) : Except (List FieldError) Criterion :=
  match payload with
  | .object _ =>
    let id := checkId (fieldUnder payload "columnId" "column_id")
    let operator := checkText ("operator", payload.field? "operator")
    let name := checkEcho echoed (fieldUnder payload "columnName" "column_name")
    let type := checkEcho echoed (fieldUnder payload "columnType" "column_type")
    match id, operator, name, type with
    | .ok id, .ok operator, .ok name, .ok type => .ok {
        columnId := id.1
        operator := operator.1
        value := (payload.field? "value").getD .null
        secondValue := (fieldUnder payload "secondValue" "second_value").2.getD .null
        columnName := name
        columnType := type
        columnId_pos := id.2
        operator_ne := operator.2 }
    | id, operator, name, type =>
      .error (errorsOf id ++ errorsOf operator ++ errorsOf name ++ errorsOf type)
  | _ => .error [⟨"", .notObject (shape echoed)⟩]

end Criterion

namespace Value

def wireOffset (offset : Offset) : String :=
  let minutes := offset.micros.natAbs / 60000000
  if offset.micros.natAbs < 1000000 then "Z"
  else (if offset.micros < 0 then "-" else "+") ++ padded 2 (minutes / 60) ++ ":" ++
    padded 2 (minutes % 60)

mutual

/-- The value as JSON can carry it: dates and times as ISO text, numbers that are not finite as
null. -/
def wire : Value → Value
  | real x => if x.isFinite then real x else null
  | date d => text d.text
  | time t => text (t.reading.text "T" ++ (t.offset.map wireOffset).getD "")
  | list items => list (wireItems items)
  | object fields => object (wireFields fields)
  | value => value

def wireItems : List Value → List Value
  | [] => []
  | item :: items => wire item :: wireItems items

def wireFields : List (String × Value) → List (String × Value)
  | [] => []
  | (name, value) :: fields => (name, wire value) :: wireFields fields

end

def ofText? (text : Option String) : Value := (text.map Value.text).getD null

def ofInt? (n : Option Int) : Value := (n.map Value.int).getD null

end Value

def Criterion.wire (criterion : Criterion) : Value := .object [
  ("columnId", .int criterion.columnId),
  ("operator", .text criterion.operator),
  ("value", criterion.value.wire),
  ("secondValue", criterion.secondValue.wire),
  ("columnName", .ofText? criterion.columnName),
  ("columnType", .ofText? criterion.columnType)]

end GridQuery
