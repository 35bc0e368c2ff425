import GridQuery.Condition
import GridQuery.Period

/-!
# Constraints

The condition that a resolved criterion puts on the rows of a store, if it puts any.  Operators on the
characters of a text ask only for a value; the exact match comes after the store.  Texts that are
empty ask for nothing.
-/

namespace GridQuery

structure Capabilities where
  regex : Bool
deriving DecidableEq

namespace Capabilities

def regexDialects : List String := ["postgresql", "sqlite", "mysql", "mariadb", "oracle"]

def ofDialect (dialect : String) : Capabilities := ⟨regexDialects.contains dialect⟩

/-- The operators that such a store only narrows down. -/
def residualOperators (capabilities : Capabilities) : List Operator :=
  if capabilities.regex then Operator.lexical else Operator.lexical ++ [.regex]

end Capabilities

structure Setting where
  zone : Zone
  now : Timestamp
  capabilities : Capabilities

def Value.instant? : Value → Option Instant
  | .time stamp => stamp.offset.map (⟨stamp.reading, ·⟩)
  | _ => none

namespace Resolved

def equalTest? (resolved : Resolved) : Option CellTest :=
  match resolved.family, resolved.value with
  | .text, .text s => if s.isEmpty then none else some (.trimmedTextIs s)
  | .numeric, .real x => some (.number .equal x)
  | .boolean, .bool b => some (.flagIs b)
  | .date, value => value.instant?.map (.instant .equal)
  | .reference, value | .other, value =>
    ((value.canonicalText? resolved.column.type).filter (· ≠ "")).map .textIs
  | _, _ => none

def comparisonTest? (resolved : Resolved) (comparison : Comparison) : Option CellTest :=
  match resolved.family, resolved.value with
  | .numeric, .real x => some (.number comparison x)
  | .date, value => value.instant?.map (.instant comparison)
  | _, _ => none

def rangeTest? (resolved : Resolved) : Option CellTest :=
  match resolved.family, resolved.value, resolved.secondValue with
  | .numeric, .real x, .real y => some (.numberWithin x y)
  | .date, value, second => do return .instantWithin (← value.instant?) (← second.instant?)
  | _, _, _ => none

def someCell? (resolved : Resolved) (test : Option CellTest) : Option Condition :=
  test.map (.someCell resolved.column.id)

def noCell? (resolved : Resolved) (test : Option CellTest) : Option Condition :=
  test.map (.noCell resolved.column.id)

def textCondition? (resolved : Resolved) (test : String → Condition) : Option Condition :=
  match resolved.value with
  | .text s => if s.isEmpty then none else some (test s)
  | _ => none

/-- The condition that a text matches a pattern.  A store without patterns is asked for a value, and
no store is asked about a pattern that cannot be read. -/
def patternCondition (resolved : Resolved) (capabilities : Capabilities) (pattern : String) :
    Condition :=
  if !capabilities.regex then .someCell resolved.column.id .hasText
  else if (Pattern.ofText? pattern).isNone then .never
  else .someCell resolved.column.id (.matching pattern)

def condition? (setting : Setting) (resolved : Resolved) : Except PeriodFault (Option Condition) :=
  let id := resolved.column.id
  match resolved.operator with
  | .equals => .ok (resolved.someCell? resolved.equalTest?)
  | .notEquals => .ok (resolved.noCell? resolved.equalTest?)
  | .greaterThan | .after => .ok (resolved.someCell? (resolved.comparisonTest? .greater))
  | .greaterThanOrEqual => .ok (resolved.someCell? (resolved.comparisonTest? .greaterOrEqual))
  | .lessThan | .before => .ok (resolved.someCell? (resolved.comparisonTest? .less))
  | .lessThanOrEqual => .ok (resolved.someCell? (resolved.comparisonTest? .lessOrEqual))
  | .between => .ok (resolved.someCell? resolved.rangeTest?)
  | .notBetween => .ok (resolved.noCell? resolved.rangeTest?)
  | .isEmpty => .ok (some (.noCell id .hasText))
  | .isNotEmpty => .ok (some (.someCell id .hasText))
  | .contains | .notContains | .startsWith | .endsWith =>
    .ok (resolved.textCondition? fun _ => .someCell id .hasText)
  | .regex => .ok (resolved.textCondition? (resolved.patternCondition setting.capabilities))
  | .today | .yesterday | .thisWeek | .thisMonth | .thisYear =>
    match periodRange setting.zone resolved.operator setting.now with
    | .ok (start, stop) => .ok (some (.someCell id (.instantWithin start stop)))
    | .error fault => .error fault

end Resolved

def Operator.constrained : Operator → List Family
  | .equals | .notEquals | .isEmpty | .isNotEmpty => Family.all
  | .greaterThan | .greaterThanOrEqual | .lessThan | .lessThanOrEqual | .between | .notBetween =>
    [.numeric, .date]
  | .before | .after | .today | .yesterday | .thisWeek | .thisMonth | .thisYear => [.date]
  | .contains | .notContains | .startsWith | .endsWith | .regex => [.text]

/-- The pairs of operators and families whose criteria put conditions on rows; all others are no
constraint. -/
structure Constraints where
  pairs : List (Operator × Family)

namespace Constraints

def empty : Constraints := ⟨[]⟩

def has (constraints : Constraints) (operator : Operator) (family : Family) : Bool :=
  constraints.pairs.contains (operator, family)

def register (constraints : Constraints) (operator : Operator) : Constraints :=
  ⟨(constraints.pairs ++ operator.constrained.map (operator, ·)).eraseDups⟩

def unregister (constraints : Constraints) (operator : Operator) (family : Family) : Constraints :=
  ⟨constraints.pairs.filter (· ≠ (operator, family))⟩

def standard : Constraints := Operator.all.foldl register empty

def condition? (constraints : Constraints) (setting : Setting) (resolved : Resolved) :
    Except PeriodFault (Option Condition) :=
  if constraints.has resolved.operator resolved.family then resolved.condition? setting
  else .ok none

end Constraints

end GridQuery
