import GridQuery.Projection
import GridQuery.Residual
import GridQuery.Text.Wildcard

/-!
# Conditions

What a store is asked about the cells of a row.  A condition demands that some cell of a column
passes a test, or that none does; a cell without the projection in question passes no test.
-/

namespace GridQuery

inductive Comparison
  | equal
  | less
  | greater
  | lessOrEqual
  | greaterOrEqual
deriving DecidableEq

def Comparison.allows : Comparison → Ordering → Bool
  | equal, order => order == .eq
  | less, order => order == .lt
  | greater, order => order == .gt
  | lessOrEqual, order => order != .gt
  | greaterOrEqual, order => order != .lt

inductive CellTest
  | hasText
  /-- The text without blanks U+0020 at its ends. -/
  | trimmedTextIs (text : String)
  | textIs (text : String)
  | matching (pattern : String)
  | flagIs (flag : Bool)
  | number (comparison : Comparison) (operand : Double)
  | numberWithin (low high : Double)
  | instant (comparison : Comparison) (operand : Instant)
  | instantWithin (low high : Instant)

namespace CellTest

def compareNumbers (x y : Double) (comparison : Comparison) : Bool :=
  (x.compare? y).any comparison.allows

/-- Instants are compared by the texts under which they are kept. -/
def compareInstants (a b : Instant) (comparison : Comparison) : Bool :=
  match a.storedText?, b.storedText? with
  | some s, some t => comparison.allows (compare s t)
  | _, _ => false

def holds (cell : Projections) : CellTest → Bool
  | hasText => cell.text.isSome
  | trimmedTextIs text =>
    cell.text.any fun s => Text.trimBy (· = ' ') s.toList = text.toList
  | textIs text => cell.text == some text
  | matching pattern => cell.text.any (Residual.matchesPattern pattern)
  | flagIs flag => cell.flag == some flag
  | number comparison operand => cell.number.any fun x => compareNumbers x operand comparison
  | numberWithin low high => cell.number.any fun x =>
    compareNumbers x low .greaterOrEqual && compareNumbers x high .lessOrEqual
  | instant comparison operand => cell.instant.any fun t => compareInstants t operand comparison
  | instantWithin low high => cell.instant.any fun t =>
    compareInstants t low .greaterOrEqual && compareInstants t high .lessOrEqual

def instants : CellTest → List Instant
  | instant _ operand => [operand]
  | instantWithin low high => [low, high]
  | _ => []

end CellTest

inductive Condition
  | someCell (columnId : Int) (test : CellTest)
  | noCell (columnId : Int) (test : CellTest)
  /-- The text of some cell of the row contains a term, Latin letters in either case. -/
  | someText (term : String)
  | never

namespace Condition

def searchPattern (term : String) : List Char :=
  Text.containing (Text.asciiLower (Text.literal '/' term.toList))

def holds (cells : List (Int × Projections)) : Condition → Bool
  | someCell columnId test => cells.any fun cell => cell.1 == columnId && test.holds cell.2
  | noCell columnId test => !cells.any fun cell => cell.1 == columnId && test.holds cell.2
  | someText term => cells.any fun cell =>
    cell.2.text.any fun s => Text.isLike '/' (searchPattern term) (Text.asciiLower s.toList)
  | never => false

def instants : Condition → List Instant
  | someCell _ test | noCell _ test => test.instants
  | someText _ | never => []

def search? (term : String) : Option Condition :=
  if (trimmed term).isEmpty then none else some (.someText (trimmed term))

end Condition

end GridQuery
