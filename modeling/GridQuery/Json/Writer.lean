import GridQuery.Text.Quoted
import GridQuery.Value.Basic

/-!
# Writing JSON

JSON text in ASCII, with a blank behind every comma and colon.  The fields of objects keep their
order or are sorted by name.  Dates and times are written as texts.
-/

namespace GridQuery.Json

def unitEscape (unit : Nat) : List Char := '\\' :: 'u' :: Text.hex 4 unit

def escapedChar (c : Char) : List Char :=
  if c = '"' then ['\\', '"']
  else if c = '\\' then ['\\', '\\']
  else if c = '\n' then ['\\', 'n']
  else if c = '\r' then ['\\', 'r']
  else if c = '\t' then ['\\', 't']
  else if c.toNat = 8 then ['\\', 'b']
  else if c.toNat = 12 then ['\\', 'f']
  else if 0x20 ≤ c.toNat ∧ c.toNat < 0x7f then [c]
  else if c.toNat < 0x10000 then unitEscape c.toNat
  else
    let above := c.toNat - 0x10000
    unitEscape (0xd800 + above / 0x400) ++ unitEscape (0xdc00 + above % 0x400)

def writeText (s : String) : List Char := '"' :: s.toList.flatMap escapedChar ++ ['"']

def writeReal : Double → List Char
  | .nan => "NaN".toList
  | .signed negative m =>
    (if negative then ['-'] else []) ++
      if m.isFinite then m.written else "Infinity".toList

mutual

def write (sorted : Bool) : Value → List Char
  | .null => "null".toList
  | .bool b => if b then "true".toList else "false".toList
  | .int n => (toString n).toList
  | .real x => writeReal x
  | .text s => writeText s
  | .date d => writeText d.text
  | .time t => writeText (t.text " ")
  | .list items => '[' :: ", ".toList.intercalate (writeItems sorted items) ++ [']']
  | .object fields =>
    let written := writeFields sorted fields
    let written := if sorted then sortFields written else written
    let members := written.map fun field => writeText field.1 ++ ':' :: ' ' :: field.2
    '\x7b' :: ", ".toList.intercalate members ++ ['\x7d']

def writeItems (sorted : Bool) : List Value → List (List Char)
  | [] => []
  | item :: items => write sorted item :: writeItems sorted items

def writeFields (sorted : Bool) : List (String × Value) → List (String × List Char)
  | [] => []
  | (name, value) :: fields => (name, write sorted value) :: writeFields sorted fields

end

mutual

def unwritable? : Value → Option Value
  | .date d => some (.date d)
  | .time t => some (.time t)
  | .list items => unwritableItem? items
  | .object fields => unwritableField? fields
  | _ => none

def unwritableItem? : List Value → Option Value
  | [] => none
  | item :: items => (unwritable? item).or (unwritableItem? items)

def unwritableField? : List (String × Value) → Option Value
  | [] => none
  | (_, value) :: fields => (unwritable? value).or (unwritableField? fields)

end

end GridQuery.Json
