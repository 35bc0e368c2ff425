import GridQuery.Text.Digit
import GridQuery.Text.Utf8

/-!
# Percent encoding

A percent sign with two hexadecimal digits stands for a byte, and bytes in a row for characters in
UTF-8.  All else stands for itself, a percent sign without such digits too.
-/

namespace GridQuery.Text.Percent

inductive Part
  | char (c : Char)
  | byte (b : UInt8)
deriving DecidableEq

def byte? (high low : Char) : Option UInt8 := do
  return UInt8.ofNat (16 * (← hexDigit? high) + (← hexDigit? low))

def parts : List Char → List Part
  | '%' :: high :: low :: rest =>
    match byte? high low with
    | some b => .byte b :: parts rest
    | none => .char '%' :: parts (high :: low :: rest)
  | c :: rest => .char c :: parts rest
  | [] => []

/-- What a part of a character leaves behind when no more of it comes. -/
def cut : Option Utf8.Pending → List (Option Char)
  | some _ => [none]
  | none => []

def settle : Utf8.Start → List (Option Char) × Option Utf8.Pending
  | .char c => ([some c], none)
  | .pending pending => ([], some pending)
  | .malformed => ([none], none)

def step (pending : Option Utf8.Pending) (b : UInt8) :
    List (Option Char) × Option Utf8.Pending :=
  match pending with
  | some p =>
    if p.accepts b then settle (p.next b)
    else
      let (chars, pending) := settle (Utf8.start b)
      (none :: chars, pending)
  | none => settle (Utf8.start b)

def characters (pending : Option Utf8.Pending) : List Part → List (Option Char)
  | [] => cut pending
  | .char c :: rest => cut pending ++ some c :: characters none rest
  | .byte b :: rest => (step pending b).1 ++ characters (step pending b).2 rest

def decode? (text : List Char) : Option (List Char) := (characters none (parts text)).mapM id

/-- The text that an encoded text stands for, with U+FFFD for bytes that stand for no character. -/
def decode (text : List Char) : List Char :=
  (characters none (parts text)).map (·.getD (Char.ofNat 0xfffd))

end GridQuery.Text.Percent
