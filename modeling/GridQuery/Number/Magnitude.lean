/-!
# Magnitudes of double-precision numbers

A magnitude is one of the sizes a 64-bit binary floating-point number can have, known by its rank:
zero has rank 0, the least positive size rank 1, and so on up to infinity.  All arithmetic is exact
and counts in units of the least positive size, `2 ^ (-1074)`.
-/

namespace GridQuery

/-- Of the 2047 binades of `2 ^ 52` sizes each, the first holds zero and the subnormal sizes. -/
structure Magnitude where
  rank : Nat
  rank_le : rank ≤ 2047 * 0x10000000000000
deriving DecidableEq

namespace Magnitude

def topRank : Nat := 2047 * 0x10000000000000

def unitsPerOne : Nat := Nat.pow 2 1074

/-- The size of rank `rank`, in units; the ranks above `topRank` continue the same scale. -/
def unitsAt (rank : Nat) : Nat :=
  if rank < 0x10000000000000 then rank
  else (0x10000000000000 + rank % 0x10000000000000) * Nat.pow 2 (rank / 0x10000000000000 - 1)

def floorRank (units : Nat) : Nat :=
  if units < 0x20000000000000 then units
  else
    let shift := units.log2 - 52
    shift * 0x10000000000000 + units >>> shift

/-- The rank of the size nearest to `num / den`; of two equally near ones the even rank. -/
def nearestRank (num den : Nat) : Nat :=
  let scaled := num * unitsPerOne
  let low := floorRank (scaled / den)
  let middle := den * (unitsAt low + unitsAt (low + 1))
  if 2 * scaled < middle then low
  else if middle < 2 * scaled then low + 1
  else if low % 2 = 0 then low else low + 1

/-- The size nearest to `num / den`; from half a step beyond the greatest finite size on, infinity. -/
def ofRatio (num den : Nat) : Magnitude :=
  ⟨min (nearestRank num den) topRank, Nat.min_le_right _ _⟩

def zero : Magnitude := ⟨0, by decide⟩

def infinity : Magnitude := ⟨topRank, by decide⟩

def units (m : Magnitude) : Nat := unitsAt m.rank

def isFinite (m : Magnitude) : Bool := m.rank < topRank

def whole (m : Magnitude) : Nat := m.units / unitsPerOne

def fraction (m : Magnitude) : Nat := m.units % unitsPerOne

end Magnitude

end GridQuery
