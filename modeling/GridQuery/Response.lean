import GridQuery.Page
import GridQuery.Request.Basic

/-!
# Responses

What a client gets for a request: the rows of the page, its place among the pages, the filters as they
were asked for, and some numbers.
-/

namespace GridQuery

structure Response where
  request : RowRequest
  page : Page
  validFilters : Int
  tableSize : Int
  queryTime : Option Value

namespace Response

def roundedTime : Value → Value
  | .real x => .real x.toThousandths
  | value => value

def toValue (response : Response) : Except QuotientFault Value := do
  let request := response.request
  let pagination ← response.page.toValue
  return .object [
    ("data", .list (response.page.rows.map (·.toValue request.includeCells))),
    ("pagination", pagination),
    ("filters", .object [
      ("applied", .bool (!request.filters.isEmpty || request.search != "")),
      ("globalSearch", .text request.search),
      ("columnFilters", .list (request.filters.map Criterion.wire)),
      ("validFiltersCount", .int response.validFilters)]),
    ("performance", .object ((response.queryTime.toList.map fun time =>
      ("queryTime", roundedTime time)) ++ [
      ("filteredRows", .int response.page.total),
      ("originalTableSize", .int response.tableSize)]))]

end Response

end GridQuery
