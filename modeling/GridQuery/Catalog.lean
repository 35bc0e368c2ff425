import GridQuery.Coercion
import GridQuery.Criterion
import GridQuery.Operator

/-!
# Catalog

Whether a criterion makes sense for a schema: its column is known, the column's family understands
the operator, and the values that the operator needs are given and of a usable kind.
-/

namespace GridQuery

inductive ValueField
  | value
  | secondValue
deriving DecidableEq

namespace ValueField

def name : ValueField → String
  | value => "value"
  | secondValue => "secondValue"

def of (criterion : Criterion) : ValueField → Value
  | value => criterion.value
  | secondValue => criterion.secondValue

end ValueField

inductive Unfit
  | unknownColumn (id : Int)
  | incompatible (operator type : String)
  | required (field : ValueField) (column : String)
  | notNumeric (field : ValueField) (column : String)
  | notDate (field : ValueField) (column : String)
deriving DecidableEq

namespace Unfit

def message : Unfit → String
  | unknownColumn id => "Column with ID " ++ toString id ++ " not found"
  | incompatible operator type =>
    "Operator '" ++ operator ++ "' is not compatible with column type '" ++ type ++ "'"
  | required field column => "'" ++ field.name ++ "' is required for column '" ++ column ++ "'"
  | notNumeric field column => "'" ++ field.name ++ "' must be numeric for column '" ++ column ++ "'"
  | notDate field column =>
    "'" ++ field.name ++ "' must be a valid date for column '" ++ column ++ "'"

end Unfit

def operatorFor? (criterion : Criterion) (column : Column) : Option Operator :=
  (Operator.ofName? criterion.operator).filter (· ∈ column.family.operators)

def Operator.fields (operator : Operator) : List ValueField :=
  if operator.isPeriod || operator.isPresence then []
  else if operator.isRange then [.value, .secondValue]
  else [.value]

def unfitValue? (zone : Zone) (column : Column) (field : ValueField) (value : Value) :
    Option Unfit :=
  if value.isNull then some (.required field column.name)
  else match column.family with
    | .numeric => if value.toNumber.isOk then none else some (.notNumeric field column.name)
    | .date => if (value.toInstant zone).isOk then none else some (.notDate field column.name)
    | _ => none

def Criterion.unfit (zone : Zone) (schema : Schema) (criterion : Criterion) : List Unfit :=
  match schema.column? criterion.columnId with
  | none => [.unknownColumn criterion.columnId]
  | some column =>
    match operatorFor? criterion column with
    | none => [.incompatible criterion.operator column.type]
    | some operator =>
      operator.fields.filterMap fun field => unfitValue? zone column field (field.of criterion)

end GridQuery
