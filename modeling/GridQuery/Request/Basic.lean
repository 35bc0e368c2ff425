import GridQuery.Coercion
import GridQuery.Criterion
import GridQuery.Failure
import GridQuery.Request.TableId
import GridQuery.RowOrder
import GridQuery.Text.Percent

/-!
# Requests

A request for one page of a table's rows, as made from the parameters that a client sends.  Numbers
are put within their limits, and parameters that make no sense count as left out; only the table id
and the field to sort by are judged.

The criteria come as JSON with percent encoding.  They are all read or none: whatever is wrong with one
of them, the request has no filters.  Only an impasse of the reader stops it.
-/

namespace GridQuery

structure PageLimits where
  usual : Int
  most : Int
  usual_pos : 1 ≤ usual
  usual_le_most : usual ≤ most

inductive PageLimitsFault
  | notPositive
  | usualAboveMost
deriving DecidableEq

def PageLimitsFault.message : PageLimitsFault → String
  | notPositive => "Page sizes must be positive"
  | usualAboveMost => "default_page_size cannot exceed max_page_size"

namespace PageLimits

def standard : PageLimits := ⟨25, 100, by decide, by decide⟩

def ofSizes (usual most : Int) : Except PageLimitsFault PageLimits :=
  if h : 1 ≤ usual ∧ 1 ≤ most then
    if h' : usual ≤ most then .ok ⟨usual, most, h.1, h'⟩ else .error .usualAboveMost
  else .error .notPositive

end PageLimits

def maxDigits : Nat := 4300

/-- The whole number that a text starts with, if it starts with one, or how many digits it has if
they are too many. -/
def leadingInt? (text : List Char) : Except Nat (Option Int) :=
  let (negative, rest) := Numeral.splitSign (text.dropWhile Text.isBlank)
  let digits := rest.takeWhile Text.isDigit
  let size : Int := Text.ofDigits (digits.filterMap Text.digitValue?)
  if digits.isEmpty then .ok none
  else if maxDigits < digits.length then .error digits.length
  else .ok (some (if negative then -size else size))

def Value.leadingInt? : Value → Except Nat (Option Int)
  | .null => .ok none
  | value => GridQuery.leadingInt? value.plain.toList

def criteriaOf (value : Value) : List Criterion :=
  match value with
  | .list items => ((items.mapM (Criterion.ofPayload true)).toOption).getD []
  | _ => []

def readFilters (text : String) : Except Impasse (List Criterion) :=
  match Text.Percent.decode? text.toList with
  | none => .ok []
  | some decoded =>
    match Json.read Json.maxDepth (String.ofList decoded) with
    | .ok value => .ok (criteriaOf value)
    | .error (.tooDeep array) => .error (.reading array)
    | .error .unpaired => .error .unpaired
    | .error _ => .ok []

structure RowRequest where
  tableId : Int
  page : Int
  pageSize : Int
  includeCells : Bool
  search : String
  filters : List Criterion
  sortBy : String
  descending : Bool
  tableId_pos : 0 < tableId
  page_pos : 1 ≤ page
  pageSize_pos : 1 ≤ pageSize

inductive RequestFault
  | longNumber (digits : Nat)
  | strangeSearch (kind : String)
  | strangeFilters (kind : String)
  /-- Filters that are a collection, with a percent sign in it or without. -/
  | collectedFilters (kind : String) (percent : Bool)
  | impasse (impasse : Impasse)
  | invalid (errors : List FieldError)

namespace RequestFault

def message : RequestFault → String
  | longNumber digits => CoercionFault.longNumberMessage digits
  | strangeSearch kind => "'" ++ kind ++ "' object has no attribute 'strip'"
  | strangeFilters kind => "argument of type '" ++ kind ++ "' is not iterable"
  | collectedFilters kind true => "expected string or bytes-like object, got '" ++ kind ++ "'"
  | collectedFilters kind false => "'" ++ kind ++ "' object has no attribute 'split'"
  | impasse found => found.message
  | invalid errors => (Failure.ofFieldErrors errors).message

end RequestFault

namespace RowRequest

def offset (request : RowRequest) : Int := (request.page - 1) * request.pageSize

def sortOrder (request : RowRequest) : String := if request.descending then "desc" else "asc"

def order (request : RowRequest) : RowOrder := .ofNames request.sortBy (some request.sortOrder)

def parameter (parameters : List (String × Value)) (name : String) : Value :=
  ((Value.object parameters).field? name).getD .null

def numberOf (value : Value) : Except RequestFault (Option Int) :=
  match value.leadingInt? with
  | .ok n => .ok (n.filter (· ≠ 0))
  | .error digits => .error (.longNumber digits)

def searchOf (value : Value) : Except RequestFault String :=
  match value with
  | .text s => .ok (trimmed s)
  | value => if value.isTruthy then .error (.strangeSearch value.fullKind) else .ok ""

def filtersOf (value : Value) : Except RequestFault (List Criterion) :=
  let isPercent : Value → Bool := fun item => item matches .text "%"
  if !value.isTruthy then .ok []
  else match value with
    | .text s => match readFilters s with
      | .ok filters => .ok filters
      | .error impasse => .error (.impasse impasse)
    | .list items => .error (.collectedFilters value.kind (items.any isPercent))
    | .object fields => .error (.collectedFilters value.kind (fields.any (·.1 == "%")))
    | value => .error (.strangeFilters value.fullKind)

def sortFieldOf (value : Value) : Except FieldError String :=
  match value with
  | .text s => .ok (if s.isEmpty then "id" else s)
  | value => if value.isTruthy then .error ⟨"sort_by", .notText⟩ else .ok "id"

def pageSizeOf (limits : PageLimits) (size : Option Int) : Int :=
  min (max 1 (size.getD limits.usual)) limits.most

theorem one_le_pageSizeOf (limits : PageLimits) (size : Option Int) :
    1 ≤ pageSizeOf limits size := by
  have := limits.usual_pos
  have := limits.usual_le_most
  unfold pageSizeOf
  omega

def ofParameters (limits : PageLimits) (tableId : Value) (parameters : List (String × Value)) :
    Except RequestFault RowRequest := do
  let page ← numberOf (parameter parameters "page")
  let size ← numberOf (parameter parameters "pageSize")
  let search ← searchOf (parameter parameters "globalSearch")
  let filters ← filtersOf (parameter parameters "filters")
  match tableId.toTableId, sortFieldOf (parameter parameters "sortBy") with
  | .ok ⟨id, id_pos⟩, .ok sortBy => return {
      tableId := id
      page := max 1 (page.getD 1)
      pageSize := pageSizeOf limits size
      includeCells := !(parameter parameters "includeCells" matches .text "false")
      search
      filters
      sortBy
      descending := parameter parameters "sortOrder" matches .text "desc"
      tableId_pos := id_pos
      page_pos := by omega
      pageSize_pos := one_le_pageSizeOf limits size }
  | id, sortBy => .error (.invalid (errorsOf id ++ errorsOf sortBy))

end RowRequest

end GridQuery
