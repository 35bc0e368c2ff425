import GridQuery.Text.Digit
import GridQuery.Value.Basic

/-!
# Reading JSON

Beyond the standard, `NaN`, `Infinity` and `-Infinity` are numbers; of two fields with one name the
last value wins, at the place of the first.  Whole numbers have at most 4300 digits, and brackets
nest no deeper than a reader is told.  Escapes may spell half of a surrogate pair without the other
half.  No text of characters has such a part, so a reader either refuses it or puts a character in
its place.
-/

namespace GridQuery.Json

inductive ReadError
  | malformed
  | longNumber (digits : Nat)
  | tooDeep (array : Bool)
  /-- Half of a surrogate pair stands alone. -/
  | unpaired
deriving DecidableEq

def isSpace (c : Char) : Bool := c = ' ' || c = '\t' || c = '\n' || c = '\r'

def skipSpace (text : List Char) : List Char := text.dropWhile isSpace

def isHigh (unit : Nat) : Bool := 0xd800 ≤ unit && unit < 0xdc00

def isLow (unit : Nat) : Bool := 0xdc00 ≤ unit && unit < 0xe000

/-- The character of a single unit, where `lone` stands for half of a pair. -/
def unitChar? (lone : Option Char) (unit : Nat) : Option Char :=
  if isHigh unit || isLow unit then lone else some (Char.ofNat unit)

def joinUnits (lone : Option Char) : List Nat → Option (List Char)
  | high :: low :: rest =>
    if isHigh high && isLow low then
      (joinUnits lone rest).map
        (Char.ofNat (0x10000 + (high - 0xd800) * 0x400 + (low - 0xdc00)) :: ·)
    else (unitChar? lone high).bind fun c => (joinUnits lone (low :: rest)).map (c :: ·)
  | [unit] => (unitChar? lone unit).map ([·])
  | [] => some []

def hexUnit? (a b c d : Char) : Option Nat := do
  let digits ← [a, b, c, d].mapM Text.hexDigit?
  return digits.foldl (fun n d => 16 * n + d) 0

def shortEscape? : Char → Option Nat
  | '"' => some 0x22
  | '\\' => some 0x5c
  | '/' => some 0x2f
  | 'b' => some 8
  | 'f' => some 12
  | 'n' => some 10
  | 'r' => some 13
  | 't' => some 9
  | _ => none

def prepend (unit : Option Nat) (read : Except ReadError (List Nat × List Char)) :
    Except ReadError (List Nat × List Char) :=
  match unit with
  | none => .error .malformed
  | some unit => read.map fun (units, rest) => (unit :: units, rest)

def readUnits : List Char → Except ReadError (List Nat × List Char)
  | [] => .error .malformed
  | '"' :: rest => .ok ([], rest)
  | '\\' :: 'u' :: a :: b :: c :: d :: rest => prepend (hexUnit? a b c d) (readUnits rest)
  | '\\' :: c :: rest => prepend (shortEscape? c) (readUnits rest)
  | c :: rest => prepend (if c.toNat < 0x20 ∨ c = '\\' then none else some c.toNat) (readUnits rest)

def readText (lone : Option Char) (text : List Char) : Except ReadError (String × List Char) := do
  let (units, rest) ← readUnits text
  match joinUnits lone units with
  | some chars => return (String.ofList chars, rest)
  | none => .error .unpaired

def digitsOf (text : List Char) : List Char := text.takeWhile Text.isAsciiDigit

def fractionOf : List Char → List Char
  | '.' :: rest => digitsOf rest
  | _ => []

/-- An exponent: its value, and how many characters it takes. -/
def exponentOf (text : List Char) : Option (Int × Nat) :=
  match text with
  | e :: rest =>
    if e = 'e' ∨ e = 'E' then
      let (sign, skipped, rest) : Int × Nat × List Char := match rest with
        | '-' :: rest => (-1, 2, rest)
        | '+' :: rest => (1, 2, rest)
        | rest => (1, 1, rest)
      let digits := digitsOf rest
      if digits.isEmpty then none
      else some (sign * Text.ofDigits (digits.filterMap Text.asciiDigit?), skipped + digits.length)
    else none
  | [] => none

def readUnsigned (negative : Bool) (text : List Char) : Except ReadError (Value × List Char) :=
  let whole := match text with
    | '0' :: _ => ['0']
    | text => digitsOf text
  if whole.isEmpty then .error .malformed
  else
    let rest := text.drop whole.length
    let fraction := fractionOf rest
    let rest := if fraction.isEmpty then rest else rest.drop (fraction.length + 1)
    let exponent := exponentOf rest
    if fraction.isEmpty && exponent.isNone then
      let n : Int := Text.ofDigits (whole.filterMap Text.asciiDigit?)
      if 4300 < whole.length then .error (.longNumber whole.length)
      else .ok (.int (if negative then -n else n), rest)
    else
      let digits := Text.ofDigits ((whole ++ fraction).filterMap Text.asciiDigit?)
      let (power, length) := exponent.getD (0, 0)
      let size := Decimal.nearest ⟨digits, power - fraction.length⟩
      .ok (.real (.signed negative size), rest.drop length)

def readNumber : List Char → Except ReadError (Value × List Char)
  | '-' :: 'I' :: 'n' :: 'f' :: 'i' :: 'n' :: 'i' :: 't' :: 'y' :: rest =>
    .ok (.real (.signed true .infinity), rest)
  | 'I' :: 'n' :: 'f' :: 'i' :: 'n' :: 'i' :: 't' :: 'y' :: rest =>
    .ok (.real (.signed false .infinity), rest)
  | '-' :: rest => readUnsigned true rest
  | rest => readUnsigned false rest

section Values
variable (lone : Option Char)

mutual

/-- Reads a value; `depth` more brackets may open inside one another. -/
def readValue : (fuel depth : Nat) → List Char → Except ReadError (Value × List Char)
  | 0, _, _ => .error .malformed
  | fuel + 1, depth, text =>
    match text with
    | '"' :: rest => (readText lone rest).map fun (s, rest) => (.text s, rest)
    | '[' :: rest =>
      if depth = 0 then .error (.tooDeep true)
      else match skipSpace rest with
        | ']' :: rest => .ok (.list [], rest)
        | rest => (readItems fuel (depth - 1) rest).map fun (items, rest) => (.list items, rest)
    | '\x7b' :: rest =>
      if depth = 0 then .error (.tooDeep false)
      else match skipSpace rest with
        | '\x7d' :: rest => .ok (.object [], rest)
        | rest => (readFields fuel (depth - 1) [] rest).map fun (fields, rest) =>
            (.object fields, rest)
    | 'n' :: 'u' :: 'l' :: 'l' :: rest => .ok (.null, rest)
    | 't' :: 'r' :: 'u' :: 'e' :: rest => .ok (.bool true, rest)
    | 'f' :: 'a' :: 'l' :: 's' :: 'e' :: rest => .ok (.bool false, rest)
    | 'N' :: 'a' :: 'N' :: rest => .ok (.real .nan, rest)
    | rest => readNumber rest

def readItems : (fuel depth : Nat) → List Char → Except ReadError (List Value × List Char)
  | 0, _, _ => .error .malformed
  | fuel + 1, depth, text => do
    let (item, rest) ← readValue fuel depth text
    match skipSpace rest with
    | ']' :: rest => return ([item], rest)
    | ',' :: rest =>
      let (items, rest) ← readItems fuel depth (skipSpace rest)
      return (item :: items, rest)
    | _ => .error .malformed

def readFields : (fuel depth : Nat) → List (String × Value) → List Char →
    Except ReadError (List (String × Value) × List Char)
  | 0, _, _, _ => .error .malformed
  | fuel + 1, depth, before, text => do
    match text with
    | '"' :: rest =>
      let (name, rest) ← readText lone rest
      match skipSpace rest with
      | ':' :: rest =>
        let (value, rest) ← readValue fuel depth (skipSpace rest)
        let fields := setField name value before
        match skipSpace rest with
        | '\x7d' :: rest => return (fields, rest)
        | ',' :: rest => readFields fuel depth fields (skipSpace rest)
        | _ => .error .malformed
      | _ => .error .malformed
    | _ => .error .malformed

end

end Values

/-- How deep the callers of the reader let brackets nest. -/
def maxDepth : Nat := 990

def readWith (lone : Option Char) (depth : Nat) (text : String) : Except ReadError Value := do
  let text := text.toList
  let (value, rest) ← readValue lone (2 * text.length + 2) depth (skipSpace text)
  if (skipSpace rest).isEmpty then return value else .error .malformed

def placeholder : Char := '\uFFFD'

/-- The value that a whole text stands for.  Halves of pairs are refused if nothing else is wrong with
the text. -/
def read (depth : Nat) (text : String) : Except ReadError Value := do
  let _ ← readWith (some placeholder) depth text
  (readWith none depth text).mapError fun _ => .unpaired

end GridQuery.Json
