import GridQuery.Number.Double
import GridQuery.Row

/-!
# Pages

A page of rows, with what it says about the pages before and after it.  The number of pages is the
double quotient of the number of rows and the size of a page, rounded up.
-/

namespace GridQuery

inductive QuotientFault
  | zeroDivisor
  | tooLarge
deriving DecidableEq

def QuotientFault.message : QuotientFault → String
  | zeroDivisor => "division by zero"
  | tooLarge => "integer division result too large for a float"

/-- The quotient of two whole numbers as a double, rounded up. -/
def ceilQuotient (num den : Int) : Except QuotientFault Int :=
  if den = 0 then .error .zeroDivisor
  else match (Double.ofRatio (num * den.sign) den.natAbs).ceil? with
    | some n => .ok n
    | none => .error .tooLarge

structure Page where
  rows : List Row
  total : Int
  page : Int
  pageSize : Int

namespace Page

def totalPages (page : Page) : Except QuotientFault Int := ceilQuotient page.total page.pageSize

def toValue (page : Page) : Except QuotientFault Value := do
  let totalPages ← page.totalPages
  return .object [
    ("page", .int page.page),
    ("pageSize", .int page.pageSize),
    ("totalRows", .int page.total),
    ("totalPages", .int totalPages),
    ("hasNext", .bool (page.page < totalPages)),
    ("hasPrev", .bool (1 < page.page))]

end Page

end GridQuery
