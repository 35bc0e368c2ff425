import GridQuery.Number.Decimal
import GridQuery.Text.Case
import GridQuery.Text.Digit

/-!
# Reading doubles

Decimal text with digits of any script.  Between two digits there may be an underscore.  Infinity and
not-a-number are spelled out, in small or capital letters.
-/

namespace GridQuery

namespace Numeral

def asciiDigits (text : List Char) : List Char :=
  text.map fun c => ((Text.digitValue? c).map Nat.digitChar).getD c

/-- The text without its underscores, if they all stand between digits. -/
def dropUnderscores? (previous : Char) : List Char → Option (List Char)
  | [] => if previous = '_' then none else some []
  | c :: rest =>
    if c = '_' then
      if Text.isAsciiDigit previous then dropUnderscores? '_' rest else none
    else if previous = '_' ∧ !Text.isAsciiDigit c then none
    else (dropUnderscores? c rest).map (c :: ·)

def number (digits : List Char) : Nat := Text.ofDigits (digits.filterMap Text.asciiDigit?)

def splitSign : List Char → Bool × List Char
  | '-' :: rest => (true, rest)
  | '+' :: rest => (false, rest)
  | rest => (false, rest)

def exponent? : List Char → Option Int
  | [] => some 0
  | e :: rest =>
    let (negative, digits) := splitSign rest
    if (e = 'e' ∨ e = 'E') ∧ digits ≠ [] ∧ digits.all Text.isAsciiDigit then
      some (if negative then -number digits else number digits)
    else none

def decimal? (text : List Char) : Option Decimal :=
  let whole := text.takeWhile Text.isAsciiDigit
  let rest := text.dropWhile Text.isAsciiDigit
  let (fraction, rest) := match rest with
    | '.' :: more => (more.takeWhile Text.isAsciiDigit, more.dropWhile Text.isAsciiDigit)
    | rest => ([], rest)
  if whole.isEmpty && fraction.isEmpty then none
  else (exponent? rest).map fun power => ⟨number (whole ++ fraction), power - fraction.length⟩

/-- The size that a text without sign stands for; `none` inside means not a number. -/
def size? (text : List Char) : Option (Option Magnitude) :=
  let word := String.ofList (Text.asciiLower text)
  if word = "inf" ∨ word = "infinity" then some (some .infinity)
  else if word = "nan" then some none
  else (decimal? text).map fun d => some d.nearest

end Numeral

def Double.ofText? (text : String) : Option Double := do
  let plain ← Numeral.dropUnderscores? ' ' (Numeral.asciiDigits text.toList)
  let (negative, rest) := Numeral.splitSign plain
  match ← Numeral.size? rest with
  | some size => some (.signed negative size)
  | none => some .nan

end GridQuery
