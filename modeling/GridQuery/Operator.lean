import GridQuery.Column

/-!
# Filter operators

What a filter can ask of a column, and which families understand which operators.
-/

namespace GridQuery

inductive Operator
  | contains
  | notContains
  | startsWith
  | endsWith
  | regex
  | equals
  | notEquals
  | greaterThan
  | greaterThanOrEqual
  | lessThan
  | lessThanOrEqual
  | between
  | notBetween
  | before
  | after
  | today
  | yesterday
  | thisWeek
  | thisMonth
  | thisYear
  | isEmpty
  | isNotEmpty
deriving DecidableEq

namespace Operator

def all : List Operator := [
  contains, notContains, startsWith, endsWith, regex, equals, notEquals, greaterThan,
  greaterThanOrEqual, lessThan, lessThanOrEqual, between, notBetween, before, after, today,
  yesterday, thisWeek, thisMonth, thisYear, isEmpty, isNotEmpty]

def name : Operator → String
  | contains => "contains"
  | notContains => "not_contains"
  | startsWith => "starts_with"
  | endsWith => "ends_with"
  | regex => "regex"
  | equals => "equals"
  | notEquals => "not_equals"
  | greaterThan => "greater_than"
  | greaterThanOrEqual => "greater_than_or_equal"
  | lessThan => "less_than"
  | lessThanOrEqual => "less_than_or_equal"
  | between => "between"
  | notBetween => "not_between"
  | before => "before"
  | after => "after"
  | today => "today"
  | yesterday => "yesterday"
  | thisWeek => "this_week"
  | thisMonth => "this_month"
  | thisYear => "this_year"
  | isEmpty => "is_empty"
  | isNotEmpty => "is_not_empty"

def ofName? (name : String) : Option Operator := all.find? (·.name == name)

def isPeriod : Operator → Bool
  | today | yesterday | thisWeek | thisMonth | thisYear => true
  | _ => false

def isPresence : Operator → Bool
  | isEmpty | isNotEmpty => true
  | _ => false

def isRange : Operator → Bool
  | between | notBetween => true
  | _ => false

/-- Operators on the characters of a text, which a store only narrows down. -/
def lexical : List Operator := [contains, notContains, startsWith, endsWith]

end Operator

open Operator in
def Family.operators : Family → List Operator
  | text => [contains, notContains, equals, notEquals, startsWith, endsWith, regex, isEmpty,
      isNotEmpty]
  | numeric => [equals, notEquals, greaterThan, greaterThanOrEqual, lessThan, lessThanOrEqual,
      between, notBetween, isEmpty, isNotEmpty]
  | date => [equals, notEquals, before, after, between, notBetween, today, yesterday, thisWeek,
      thisMonth, thisYear, isEmpty, isNotEmpty]
  | boolean | reference | other => [equals, notEquals, isEmpty, isNotEmpty]

end GridQuery
