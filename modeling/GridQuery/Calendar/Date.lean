/-!
# Dates

Days of the Gregorian calendar, extended back to year 1 and ending with year 9999, counted from
1 January of year 1, a Monday.
-/

namespace GridQuery

structure Date where
  days : Nat
  days_lt : days < 3652059
deriving DecidableEq

namespace Date

def isLeap (year : Nat) : Bool := year % 4 == 0 && (year % 100 != 0 || year % 400 == 0)

def monthLengths (year : Nat) : List Nat :=
  [31, if isLeap year then 29 else 28, 31, 30, 31, 30, 31, 31, 30, 31, 30, 31]

def daysBeforeYear (year : Nat) : Nat :=
  let past := year - 1
  past * 365 + past / 4 - past / 100 + past / 400

def daysInMonth (year month : Nat) : Nat := ((monthLengths year)[month - 1]?).getD 0

def daysBeforeMonth (year month : Nat) : Nat := ((monthLengths year).take (month - 1)).foldr (· + ·) 0

def ofDays? (days : Int) : Option Date :=
  if h : 0 ≤ days ∧ days < 3652059 then some ⟨days.toNat, by omega⟩ else none

def count (year month day : Nat) : Nat :=
  daysBeforeYear year + daysBeforeMonth year month + (day - 1)

/-- The year of day `days`: whole cycles of 400, 100, 4 years and 1 year are taken off in turn. -/
def yearOf (days : Nat) : Nat :=
  let in400 := days % 146097
  let hundreds := min (in400 / 36524) 3
  let in100 := in400 - hundreds * 36524
  let in4 := in100 % 1461
  days / 146097 * 400 + hundreds * 100 + in100 / 1461 * 4 + min (in4 / 365) 3 + 1

/-- The month that day `day` of a year with these month lengths falls into, and its day there, both
counted from zero. -/
def monthAndDay : List Nat → Nat → Nat × Nat
  | [], day => (0, day)
  | length :: lengths, day =>
    if day < length then (0, day)
    else
      let later := monthAndDay lengths (day - length)
      (later.1 + 1, later.2)

def year (date : Date) : Nat := yearOf date.days

def dayOfYear (date : Date) : Nat := date.days - daysBeforeYear date.year

def month (date : Date) : Nat := (monthAndDay (monthLengths date.year) date.dayOfYear).1 + 1

def day (date : Date) : Nat := (monthAndDay (monthLengths date.year) date.dayOfYear).2 + 1

def weekday (date : Date) : Nat := date.days % 7

def shift? (date : Date) (days : Int) : Option Date := ofDays? (date.days + days)

end Date

end GridQuery
