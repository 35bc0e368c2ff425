/-!
# Blank characters

The characters that count as white space, and what remains of a text without them at its ends.
-/

namespace GridQuery.Text

def within (ranges : List (Nat × Nat)) (c : Char) : Bool :=
  ranges.any fun range => range.1 ≤ c.toNat && c.toNat ≤ range.2

/-- White space as Unicode has it, with the four separators U+001C to U+001F. -/
def blankRanges : List (Nat × Nat) := [
  (0x09, 0x0d), (0x1c, 0x20), (0x85, 0x85), (0xa0, 0xa0), (0x1680, 0x1680), (0x2000, 0x200a),
  (0x2028, 0x2029), (0x202f, 0x202f), (0x205f, 0x205f), (0x3000, 0x3000)]

def isBlank (c : Char) : Bool := within blankRanges c

/-- White space without the four separators. -/
def isWhiteSpace (c : Char) : Bool := isBlank c && !within [(0x1c, 0x1f)] c

def trimBy (class? : Char → Bool) (text : List Char) : List Char :=
  ((text.dropWhile class?).reverse.dropWhile class?).reverse

def trim (text : List Char) : List Char := trimBy isBlank text

end GridQuery.Text

namespace GridQuery

def trimmed (text : String) : String := String.ofList (Text.trim text.toList)

end GridQuery
