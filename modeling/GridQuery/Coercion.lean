import GridQuery.Calendar.Epoch
import GridQuery.Calendar.IsoText
import GridQuery.Calendar.Zone
import GridQuery.Column
import GridQuery.Json.Reader
import GridQuery.Json.Writer
import GridQuery.Number.Reading
import GridQuery.Value.Obstacle
import GridQuery.Value.Shown

/-!
# Coercion

How a raw value becomes one of the kind that a column type compares.  Stored cells and filter values
go through the same rules.  A value that cannot be used is refused with a reason.  Too many brackets
inside one another stop the whole request, and so do halves of surrogate pairs in JSON: the values
they would be in have no texts of characters.

The canonical text of a value stands for it where values are compared as text or searched.  Doubles that
are whole are written like whole numbers in it, and the fields of an object are sorted by name.

The raw form of a coerced value is the way back: instants become ISO text, numbers their shortest decimal
text, booleans their names, and structured values JSON.
-/

namespace GridQuery

namespace Value

def scalarText? : Value → Option String
  | null => none
  | bool b => some (if b then "true" else "false")
  | int n => some (toString n)
  | real x => some ((x.toInt?.map toString).getD x.text)
  | text s => some s
  | date d => some d.text
  | time t => some t.isoText
  | list items => some (String.ofList (Json.write false (list items)))
  | object fields => some (String.ofList (Json.write true (object fields)))

/-- The canonical text of a value, `none` for null.  In a column of type `reference` a list is written
as its members with commas between them. -/
def canonicalText? (value : Value) (type : String) : Option String :=
  match value with
  | list items =>
    if type = "reference" then
      some (",".intercalate (items.map fun item => item.scalarText?.getD "None"))
    else value.scalarText?
  | value => value.scalarText?

end Value

inductive CoercionFault
  | noConversion (kind target : String)
  | notNumeric (text : String)
  | notReal (kind : String)
  | tooLarge
  | notFinite (value : Value)
  | notBoolean (value : Value)
  | emptyDate
  | calendar (fault : CalendarFault)
  | longNumber (digits : Nat)
  | longText
  | notJson (kind : String)

inductive Weakness
  | kind
  | value
  | size
deriving DecidableEq

namespace CoercionFault

def weakness : CoercionFault → Weakness
  | noConversion .. | notReal _ | notJson _ => .kind
  | tooLarge => .size
  | calendar fault => if fault.isOverflow then .size else .value
  | _ => .value

def longNumberMessage (digits : Nat) : String :=
  "Exceeds the limit (4300 digits) for integer string conversion: value has " ++ toString digits ++
    " digits; use sys.set_int_max_str_digits() to increase the limit"

def message : CoercionFault → String
  | noConversion kind target => "Cannot convert " ++ kind ++ " to " ++ target
  | notNumeric text =>
    "could not convert string to float: " ++ String.ofList (Text.quoted text.toList)
  | notReal kind => "float() argument must be a string or a real number, not '" ++ kind ++ "'"
  | tooLarge => "int too large to convert to float"
  | notFinite value => "Cannot convert " ++ value.shown ++ " to a finite number"
  | notBoolean value => "Cannot convert " ++ value.shown ++ " to boolean"
  | emptyDate => "Empty date string"
  | calendar fault => fault.message
  | longNumber digits => longNumberMessage digits
  | longText =>
    "Exceeds the limit (4300 digits) for integer string conversion; use " ++
      "sys.set_int_max_str_digits() to increase the limit"
  | notJson kind => "Object of type " ++ kind ++ " is not JSON serializable"

end CoercionFault

/-- The double nearest to a value.  Booleans count as zero and one; white space around a text does not
count. -/
def Value.toDouble : Value → Except CoercionFault Double
  | .bool b => .ok (.ofRatio (if b then 1 else 0) 1)
  | .int n => match Double.ofInt? n with
    | some x => .ok x
    | none => .error .tooLarge
  | .real x => .ok x
  | .text s =>
    match Double.ofText? (String.ofList (Text.trimBy Text.isWhiteSpace s.toList)) with
    | some x => .ok x
    | none => .error (.notNumeric s)
  | value => .error (.notReal value.fullKind)

def Value.toNumber (value : Value) : Except CoercionFault Double :=
  match value with
  | .null | .bool _ => .error (.noConversion value.kind "number")
  | value => do
    let x ← match value with
      | .text s => (Value.text (trimmed s)).toDouble
      | value => value.toDouble
    if x.isFinite then return x else .error (.notFinite value)

def Value.toBoolean (value : Value) : Except CoercionFault Bool :=
  match value with
  | .bool b => .ok b
  | .int 0 => .ok false
  | .int 1 => .ok true
  | .text s =>
    let word := String.ofList (Text.lower (Text.trim s.toList))
    if word = "true" then .ok true
    else if word = "false" then .ok false
    else .error (.notBoolean value)
  | value => .error (.notBoolean value)

def calendarResult {α : Type} : Except CalendarFault α → Except CoercionFault α
  | .ok a => .ok a
  | .error fault => .error (.calendar fault)

/-- The timestamp that a text spells.  Ten characters are a date, which means its midnight in UTC. -/
def timestampOfText (text : String) : Except CoercionFault Timestamp :=
  let text := trimmed text
  if text.isEmpty then .error .emptyDate
  else if text.length = 10 then
    calendarResult do return (Instant.ofUtc (.midnight (← Date.ofIso text))).toTimestamp
  else
    let spelled := text.toList.flatMap fun c => if c = 'Z' then "+00:00".toList else [c]
    calendarResult (Timestamp.ofIso (String.ofList spelled))

/-- The instant that a value names; numbers count milliseconds since 1970. -/
def Value.toInstant (zone : Zone) : Value → Except CoercionFault Instant
  | .time t => calendarResult (zone.instantOf t)
  | .date d => .ok (.ofUtc (.midnight d))
  | .int n => calendarResult (Instant.ofEpoch (n * 1000))
  | .real x => calendarResult (Instant.ofMillis x)
  | .text s => do calendarResult (zone.instantOf (← timestampOfText s))
  | value => .error (.noConversion value.kind "date")

inductive Impasse
  /-- Brackets nest too deep while JSON is read: those of an array, or else of an object. -/
  | reading (array : Bool)
  /-- Brackets nest too deep while JSON is written. -/
  | writing
  /-- Brackets nest too deep while a message shows the value. -/
  | showing
  /-- JSON that is read has half of a surrogate pair without the other half.  No text of characters has
  such a part, so the values that such JSON stands for are left out. -/
  | unpaired
deriving DecidableEq

namespace Impasse

def tooDeepMessage (activity : String) : String :=
  "maximum recursion depth exceeded while " ++ activity

def message : Impasse → String
  | reading array => tooDeepMessage
    ("decoding a JSON " ++ (if array then "array" else "object") ++ " from a unicode string")
  | writing => tooDeepMessage "encoding a JSON object"
  | showing => tooDeepMessage "getting the repr of an object"
  | unpaired => "surrogates not allowed"

end Impasse

inductive Coerced
  | usable (value : Value)
  | refused (fault : CoercionFault)

namespace Coerced

def ofExcept {α : Type} (wrap : α → Value) : Except CoercionFault α → Coerced
  | .ok a => usable (wrap a)
  | .error fault => refused fault

end Coerced

def coerceStructured : Value → Except Impasse Coerced
  | .text s =>
    match Json.read Json.maxDepth s with
    | .ok value => .ok (.usable value)
    | .error .malformed => .ok (.usable (.text s))
    | .error (.longNumber digits) => .ok (.refused (.longNumber digits))
    | .error (.tooDeep array) => .error (.reading array)
    | .error .unpaired => .error .unpaired
  | value => .ok (.usable value)

def coerceReference : Value → Value
  | .list items => .list (items.map fun item => .text item.plain)
  | value => .text value.plain

def coerceText (value : Value) : Value :=
  match value.canonicalText? "" with
  | some text => .text (trimmed text)
  | none => .null

def Coerced.past (answer : Coerced) (obstacle : Option Obstacle) (impasse : Impasse) :
    Except Impasse Coerced :=
  match obstacle with
  | none => .ok answer
  | some .longNumber => .ok (.refused .longText)
  | some .tooDeep => .error impasse

def Value.textObstacle? : Value → Option Obstacle
  | .object fields => (Value.object fields).obstacle? true Json.maxDepth
  | value => value.obstacle? false Json.maxDepth

def coerceBoolean (value : Value) : Except Impasse Coerced :=
  match value.toBoolean with
  | .ok flag => .ok (.usable (.bool flag))
  | .error fault =>
    Coerced.past (.refused fault) (value.obstacle? false Json.maxDepth) .showing

def coerce (zone : Zone) (type : String) (value : Value) : Except Impasse Coerced :=
  match value with
  | .null => .ok (.usable .null)
  | value =>
    match Family.ofType type with
    | .numeric => .ok (.ofExcept .real value.toNumber)
    | .boolean => coerceBoolean value
    | .date => .ok (.ofExcept (fun instant => .time instant.toTimestamp) (value.toInstant zone))
    | _ =>
      if isStructured type then coerceStructured value
      else if type = "reference" then
        Coerced.past (.usable (coerceReference value)) (value.obstacle? false Json.maxDepth)
          .showing
      else Coerced.past (.usable (coerceText value)) value.textObstacle? .writing

def rawForm (type : String) (value : Value) : Except CoercionFault Value :=
  match Family.ofType type, value with
  | _, .null => .ok .null
  | .date, .time t => .ok (.text t.isoText)
  | .numeric, value => do return .text (← value.toDouble).text
  | .boolean, value => .ok (.text (if value.isTruthy then "true" else "false"))
  | _, value =>
    if isStructured type then
      match Json.unwritable? value with
      | some part => .error (.notJson part.kind)
      | none => .ok (.text (String.ofList (Json.write false value)))
    else .ok value

end GridQuery
