/-!
# Patterns

The tree of a search pattern.  A pattern matches a stretch of a text from a place on; brackets with a
number remember the stretch that they matched last.
-/

namespace GridQuery

namespace Pattern

structure Mode where
  ignoreCase : Bool
  multiline : Bool
  dotAll : Bool
  ascii : Bool
  verbose : Bool
deriving DecidableEq

inductive Category
  | digit
  | blank
  | word
deriving DecidableEq

inductive ClassItem
  | range (low high : Char)
  | category (category : Category) (negated : Bool)
deriving DecidableEq

inductive Anchor
  | textStart
  | textEnd
  | lineStart
  | lineEnd
  /-- The end of the text, or a line end that is the last character. -/
  | lastLineEnd
  | wordBoundary (ascii negated : Bool)
deriving DecidableEq

inductive Greed
  | greedy
  | lazy
  /-- As many as possible, and never fewer on second thought. -/
  | possessive
deriving DecidableEq

end Pattern

open Pattern in
inductive Pattern
  | empty
  | never
  | oneOf (items : List ClassItem) (negated : Bool) (mode : Mode)
  | anyChar (lineEnds : Bool)
  | anchor (anchor : Anchor)
  | seq (first second : Pattern)
  | alt (first second : Pattern)
  | repeated (body : Pattern) (least : Nat) (most : Option Nat) (greed : Greed)
  | group (number : Option Nat) (body : Pattern)
  /-- The first way in which the body matches, and no other. -/
  | atomic (body : Pattern)
  | back (number : Nat) (ignoreCase ascii : Bool)
  | ahead (negated : Bool) (body : Pattern)
  /-- Whether the body, which always has the same width, matches up to here. -/
  | behind (width : Nat) (negated : Bool) (body : Pattern)
  | ifGroup (number : Nat) (yes no : Pattern)

namespace Pattern

/-- The least number of characters a pattern matches, and the most, if there is one; `widths` are
those of the groups before it. -/
def width (widths : List (Nat × Nat × Option Nat)) : Pattern → Nat × Option Nat
  | empty | never | anchor _ | ahead .. | behind .. => (0, some 0)
  | oneOf .. | anyChar _ => (1, some 1)
  | seq a b =>
    let x := width widths a
    let y := width widths b
    (x.1 + y.1, do some ((← x.2) + (← y.2)))
  | alt a b | ifGroup _ a b =>
    let x := width widths a
    let y := width widths b
    (min x.1 y.1, do some (max (← x.2) (← y.2)))
  | repeated body least most _ =>
    let x := width widths body
    (x.1 * least, if x.2 = some 0 then some 0 else do some ((← x.2) * (← most)))
  | group _ body | atomic body => width widths body
  | back number .. => ((widths.find? (·.1 == number)).map (·.2)).getD (0, some 0)

end Pattern

end GridQuery
