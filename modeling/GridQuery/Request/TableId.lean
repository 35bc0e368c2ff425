import GridQuery.FieldError
import GridQuery.Number.Reading
import GridQuery.Value.Basic

/-!
# Table ids

A table is named by a positive whole number, or by what clients send for one: a text of it, a double
or a boolean.
-/

namespace GridQuery

/-- The whole part of digits with nothing but zeros behind their point, or of digits alone. -/
def wholePart? (text : List Char) : Option (List Char) :=
  match text.dropWhile (· != '.') with
  | [] => some text
  | _ :: zeros =>
    if !zeros.isEmpty && zeros.all (· == '0') then some (text.takeWhile (· != '.')) else none

/-- The whole number that a text is; between two digits there may be an underscore. -/
def wholeNumber? (text : List Char) : Option Int := do
  let (negative, rest) := Numeral.splitSign text
  let digits ← Numeral.dropUnderscores? ' ' (← wholePart? rest)
  if !digits.isEmpty && digits.all Text.isAsciiDigit then
    return if negative then -Numeral.number digits else Numeral.number digits
  else none

def wholeDouble (x : Double) : Except FieldProblem Int :=
  if !x.isFinite then .error .notFinite
  else match x.toInt? with
    | none => .error .fraction
    | some n => if n.natAbs < 0x8000000000000000 then .ok n else .error .longInteger

def Value.toWhole : Value → Except FieldProblem Int
  | .bool b => .ok (if b then 1 else 0)
  | .int n => .ok n
  | .real x => wholeDouble x
  | .text s =>
    let text := Text.trimBy Text.isWhiteSpace s.toList
    if 4300 < text.length then .error .longInteger
    else match wholeNumber? text with
      | some n => .ok n
      | none => .error .unreadableInteger
  | _ => .error .notInteger

def Value.toTableId (value : Value) : Except FieldError { id : Int // 0 < id } :=
  match value.toWhole with
  | .ok n => if h : 0 < n then .ok ⟨n, h⟩ else .error ⟨"table_id", .notPositive⟩
  | .error problem => .error ⟨"table_id", problem⟩

end GridQuery
