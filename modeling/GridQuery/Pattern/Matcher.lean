import GridQuery.Pattern.Syntax
import GridQuery.Text.Alphanumeric
import GridQuery.Text.Case
import GridQuery.Text.Digit

/-!
# Matching patterns

A pattern is tried in one way after the other until the rest of the pattern matches too.  Of an
alternative the first part comes first; a repetition takes as many turns as it can, or as few, and
takes no further turn after one that did not move on.
-/

namespace GridQuery.Pattern

/-- A place in a text: the characters before it, nearest first, and those after it. -/
structure Place where
  before : List Char
  after : List Char
  index : Nat
  groups : List (Nat × List Char)

def Place.group? (place : Place) (number : Nat) : Option (List Char) :=
  (place.groups.find? (·.1 == number)).map (·.2)

def Category.holds (ascii : Bool) (c : Char) : Category → Bool
  | digit => if ascii then (Text.asciiDigit? c).isSome else Text.isDigit c
  | blank => Text.isBlank c && (!ascii || (c.toNat < 0x80 && !(0x1c ≤ c.toNat && c.toNat < 0x20)))
  | word => c = '_' || if ascii then c.isAlphanum else Text.within Text.alphanumericRanges c

def Mode.variants (mode : Mode) (c : Char) : List Char :=
  if !mode.ignoreCase then [c]
  else if mode.ascii then Text.asciiVariants c
  else Text.caseVariants c

def Mode.small (mode : Mode) (c : Char) : Char :=
  if !mode.ignoreCase then c else if mode.ascii then c.toLower else Text.smallForm c

def ClassItem.holds (mode : Mode) (c : Char) : ClassItem → Bool
  | range low high => (mode.variants c).any fun v => low ≤ v && v ≤ high
  | category kind negated => kind.holds mode.ascii (mode.small c) != negated

def isBoundary (ascii : Bool) (place : Place) : Bool :=
  let isWord (c : Option Char) : Bool := c.any fun c => Category.word.holds ascii c
  isWord place.before.head? != isWord place.after.head?

def Place.inText (place : Place) : Bool := !(place.before.isEmpty && place.after.isEmpty)

def Anchor.holds (place : Place) : Anchor → Bool
  | textStart => place.before.isEmpty
  | textEnd => place.after.isEmpty
  | lineStart => place.before.head?.all (· = '\n')
  | lineEnd => place.after.head?.all (· = '\n')
  | lastLineEnd => place.after = [] || place.after = ['\n']
  | wordBoundary ascii negated => place.inText && isBoundary ascii place != negated

namespace Place

def forward : Nat → Place → Place
  | 0, place => place
  | count + 1, place =>
    match place.after with
    | [] => place
    | c :: after =>
      forward count { place with before := c :: place.before, after, index := place.index + 1 }

def backward? : Nat → Place → Option Place
  | 0, place => some place
  | count + 1, place =>
    match place.before with
    | [] => none
    | c :: before =>
      backward? count { place with before, after := c :: place.after, index := place.index - 1 }

def remember (number : Option Nat) (start place : Place) : Place :=
  match number with
  | none => place
  | some number =>
    let stretch := (place.before.take (place.index - start.index)).reverse
    { place with groups := (number, stretch) :: place.groups }

end Place

/-- How the rest of a match goes on from a place; `none` if it does not. -/
abbrev Rest := Place → Option Place

/-- Repeats a step and then goes on.  No turn beyond the least number follows one that ended at the
same place. -/
def turns (step : Rest → Rest) (least : Nat) (most : Option Nat) (lazily : Bool) (rest : Rest) :
    (fuel count : Nat) → (last : Option Nat) → Rest
  | 0, _, _, place => rest place
  | fuel + 1, count, last, place =>
    if count < least then step (turns step least most lazily rest fuel (count + 1) last) place
    else if most.all (count < ·) && last != some place.index then
      let again := turns step least most lazily rest fuel (count + 1) (some place.index)
      if lazily then (rest place).orElse fun _ => step again place
      else (step again place).orElse fun _ => rest place
    else rest place

def skipStart? (same : Char → Char → Bool) : List Char → List Char → Bool
  | [], _ => true
  | _ :: _, [] => false
  | c :: start, d :: text => same c d && skipStart? same start text

def run : Pattern → Rest → Rest
  | empty, rest, place => rest place
  | never, _, _ => none
  | oneOf items negated mode, rest, place =>
    match place.after with
    | [] => none
    | c :: _ =>
      if (items.any (·.holds mode c)) != negated then rest (place.forward 1) else none
  | anyChar lineEnds, rest, place =>
    match place.after with
    | [] => none
    | c :: _ => if lineEnds || c != '\n' then rest (place.forward 1) else none
  | anchor kind, rest, place => if kind.holds place then rest place else none
  | seq first second, rest, place => run first (run second rest) place
  | alt first second, rest, place => (run first rest place).orElse fun _ => run second rest place
  | repeated body least most greed, rest, place =>
    let fuel := least + place.after.length + 2
    match greed with
    | .greedy => turns (run body) least most false rest fuel 0 none place
    | .lazy => turns (run body) least most true rest fuel 0 none place
    | .possessive => (turns (run body) least most false some fuel 0 none place).bind rest
  | group number body, rest, place =>
    run body (fun stop => rest (Place.remember number place stop)) place
  | atomic body, rest, place => (run body some place).bind rest
  | back number ignoreCase ascii, rest, place =>
    match place.group? number with
    | none => none
    | some stretch =>
      let mode : Mode := ⟨ignoreCase, false, false, ascii, false⟩
      if skipStart? (fun c d => mode.small c = mode.small d) stretch place.after then
        rest (place.forward stretch.length)
      else none
  | ahead negated body, rest, place =>
    match run body some place with
    | some stop => if negated then none else rest { place with groups := stop.groups }
    | none => if negated then rest place else none
  | behind width negated body, rest, place =>
    match (place.backward? width).bind (run body some) with
    | some stop => if negated then none else rest { place with groups := stop.groups }
    | none => if negated then rest place else none
  | ifGroup number yes no, rest, place =>
    if (place.group? number).isSome then run yes rest place else run no rest place

def searchFrom (pattern : Pattern) : (before : List Char) → (index : Nat) → List Char → Bool
  | before, index, [] => (run pattern some ⟨before, [], index, []⟩).isSome
  | before, index, c :: after =>
    (run pattern some ⟨before, c :: after, index, []⟩).isSome ||
      searchFrom pattern (c :: before) (index + 1) after

def occursIn (pattern : Pattern) (text : String) : Bool := searchFrom pattern [] 0 text.toList

end GridQuery.Pattern
