import GridQuery.Value.Basic

/-!
# What cannot be written out

A value is written out where it is compared as text or shown in a message.  Whole numbers of more than
4300 digits have no written form, and lists and objects nest no deeper than the stack allows.
-/

namespace GridQuery

inductive Obstacle
  | longNumber
  | tooDeep
deriving DecidableEq

namespace Value

mutual

/-- The first thing in the way of writing a value out, where lists and objects may nest `depth` deep and
objects are gone through by name if they are to be sorted. -/
def obstacle? (sorted : Bool) : Value → (depth : Nat) → Option Obstacle
  | int n, _ => if 4300 < (Decimal.numeral n.natAbs).length then some .longNumber else none
  | list _, 0 | object _, 0 => some .tooDeep
  | list items, depth + 1 => itemsObstacle? sorted items depth
  | object fields, depth + 1 =>
    let found := fieldObstacles sorted fields depth
    (if sorted then sortFields found else found).findSome? (·.2)
  | _, _ => none

def itemsObstacle? (sorted : Bool) : List Value → (depth : Nat) → Option Obstacle
  | [], _ => none
  | item :: items, depth => (obstacle? sorted item depth).or (itemsObstacle? sorted items depth)

def fieldObstacles (sorted : Bool) :
    List (String × Value) → (depth : Nat) → List (String × Option Obstacle)
  | [], _ => []
  | (name, value) :: fields, depth =>
    (name, obstacle? sorted value depth) :: fieldObstacles sorted fields depth

end

end Value

end GridQuery
