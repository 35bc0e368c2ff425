import GridQuery.Text.Blank
import GridQuery.Text.CaseContext
import GridQuery.Text.LowerRuns

/-!
# Small letters

Full lower-casing: one capital becomes two characters, and a sigma at the end of a word takes its
final form.  The ASCII fold changes the 26 Latin capitals only.  The variants of a character differ from
it in case only; beside a capital and its small letter, some small letters have further forms.
-/

namespace GridQuery.Text

def lowerAlone (c : Char) : List Char :=
  if c.toNat < 0x80 then [c.toLower]
  else if c.toNat = 0x130 then ['i', Char.ofNat 0x307]
  else [((lowerRuns.findSome? (·.small? c.toNat)).map Char.ofNat).getD c]

/-- Whether the first character that is not ignored for case is a cased one. -/
def casedNext (text : List Char) : Bool :=
  match text.dropWhile (within caseIgnorableRanges) with
  | [] => false
  | c :: _ => within casedRanges c

/-- The small letter of `c` after the characters `before` (nearest first) and before `after`. -/
def lowerAt (before : List Char) (c : Char) (after : List Char) : List Char :=
  if c.toNat = 0x3a3 then
    [Char.ofNat (if casedNext before && !casedNext after then 0x3c2 else 0x3c3)]
  else lowerAlone c

def lowerAfter (before : List Char) : List Char → List Char
  | [] => []
  | c :: after => lowerAt before c after ++ lowerAfter (c :: before) after

def lower (text : List Char) : List Char := lowerAfter [] text

def asciiLower (text : List Char) : List Char := text.map Char.toLower

def smallForm (c : Char) : Char :=
  if c.toNat = 0x130 then 'i' else (lowerAlone c).headD c

/-- Small letters that share a capital. -/
def sharedForms : List (List Nat) := [
  [0x69, 0x131], [0x73, 0x17f], [0xb5, 0x3bc], [0x345, 0x3b9, 0x1fbe], [0x390, 0x1fd3],
  [0x3b0, 0x1fe3], [0x3b2, 0x3d0], [0x3b5, 0x3f5], [0x3b8, 0x3d1], [0x3ba, 0x3f0],
  [0x3c0, 0x3d6], [0x3c1, 0x3f1], [0x3c2, 0x3c3], [0x3c6, 0x3d5], [0x432, 0x1c80],
  [0x434, 0x1c81], [0x43e, 0x1c82], [0x441, 0x1c83], [0x442, 0x1c84, 0x1c85], [0x44a, 0x1c86],
  [0x463, 0x1c87], [0x1c88, 0xa64b], [0x1e61, 0x1e9b], [0xfb05, 0xfb06]]

def formsOf (small : Nat) : List Nat := (sharedForms.find? (small ∈ ·)).getD [small]

def caseVariants (c : Char) : List Char :=
  let small := formsOf (smallForm c).toNat
  let capitals := small.flatMap fun code =>
    lowerRuns.filterMap (·.capital? code) ++ if code = 0x69 then [0x130] else []
  c :: (small ++ capitals).map Char.ofNat

def asciiVariants (c : Char) : List Char := [c, c.toLower, c.toUpper]

end GridQuery.Text
