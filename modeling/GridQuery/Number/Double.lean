import GridQuery.Number.Magnitude

/-!
# Double-precision numbers

A double is a sign with a magnitude, or not a number at all.  Zero has two signs, which compare
equal.
-/

namespace GridQuery

inductive Double
  | nan
  | signed (negative : Bool) (size : Magnitude)
deriving DecidableEq

namespace Double

/-- The place of a number on the line; the two zeros share theirs, and `nan` has none. -/
def place? : Double → Option Int
  | nan => none
  | signed false m => some m.rank
  | signed true m => some (-m.rank)

/-- Nothing is below, above or equal to `nan`, itself included. -/
def compare? (x y : Double) : Option Ordering :=
  match x.place?, y.place? with
  | some a, some b => some (compare a b)
  | _, _ => none

def isFinite : Double → Bool
  | nan => false
  | signed _ m => m.isFinite

def ofRatio (num : Int) (den : Nat) : Double :=
  signed (num < 0) (Magnitude.ofRatio num.natAbs den)

def ofInt? (n : Int) : Option Double :=
  let m := Magnitude.ofRatio n.natAbs 1
  if m.isFinite then some (signed (n < 0) m) else none

def toInt? : Double → Option Int
  | nan => none
  | signed negative m =>
    if m.isFinite && m.fraction == 0 then
      some (if negative then -m.whole else m.whole)
    else none

def ceil? : Double → Option Int
  | nan => none
  | signed negative m =>
    if !m.isFinite then none
    else if negative then some (-m.whole)
    else some (if m.fraction == 0 then m.whole else m.whole + 1)

end Double

def roundHalfEven (num den : Nat) : Nat :=
  let low := num / den
  let rest := 2 * (num % den)
  if rest < den then low
  else if den < rest then low + 1
  else if low % 2 = 0 then low else low + 1

def Double.toThousandths : Double → Double
  | .nan => .nan
  | .signed negative m =>
    if m.isFinite then
      .signed negative (.ofRatio (roundHalfEven (m.units * 1000) Magnitude.unitsPerOne) 1000)
    else .signed negative m

end GridQuery
