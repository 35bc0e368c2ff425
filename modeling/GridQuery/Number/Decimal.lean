import GridQuery.Number.Double

/-!
# Decimal numbers

Decimal digits with a power of ten, the double nearest to them, and the shortest digits that name a
given double.
-/

namespace GridQuery

structure Decimal where
  digits : Nat
  exponent : Int
deriving DecidableEq

namespace Decimal

def width (n : Nat) : Nat := (Nat.toDigits 10 n).length

/-- The size nearest to a decimal.  A leading digit above `10 ^ 400` or below `10 ^ (-400)` decides
by itself. -/
def nearest (d : Decimal) : Magnitude :=
  if d.digits = 0 then .zero
  else
    let lead := width d.digits + d.exponent
    if 400 < lead then .infinity
    else if lead < -400 then .zero
    else .ofRatio (d.digits * Nat.pow 10 d.exponent.toNat) (Nat.pow 10 (-d.exponent).toNat)

def trim : Decimal → Decimal
  | ⟨digits, exponent⟩ =>
    if h : digits ≠ 0 ∧ digits % 10 = 0 then trim ⟨digits / 10, exponent + 1⟩
    else ⟨digits, exponent⟩
termination_by d => d.digits
decreasing_by omega

/-- The number of digits before the point of a positive finite size, as a power of ten:
`10 ^ (lead - 1) ≤ m < 10 ^ lead`. -/
def lead (m : Magnitude) : Int :=
  width (m.units * Nat.pow 10 340 / Magnitude.unitsPerOne) - 340

/-- The neighbours of a positive finite size with `count` digits that name it again: the nearer one
first, of two equally near ones the even one. -/
def candidates (m : Magnitude) (count : Nat) : List Decimal :=
  let exponent := lead m - count
  let num := m.units * Nat.pow 10 (-exponent).toNat
  let den := Magnitude.unitsPerOne * Nat.pow 10 exponent.toNat
  let low := num / den
  let near := roundHalfEven num den
  let far := if near = low then low + 1 else low
  [⟨near, exponent⟩, ⟨far, exponent⟩].filter fun d => d.nearest = m

def exact (m : Magnitude) : Decimal := ⟨m.units * Nat.pow 5 1074, -1074⟩

/-- The fewest digits that name a positive finite size, the nearest of those to it. -/
def shortest (m : Magnitude) : Decimal :=
  let found := (List.range 17).findSome? fun count => (candidates m (count + 1)).head?
  trim (found.getD (exact m))

end Decimal

end GridQuery
