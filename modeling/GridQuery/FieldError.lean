/-!
# Errors in the fields of a request
-/

namespace GridQuery

inductive FieldProblem
  | missing
  | notInteger
  | notPositive
  | notText
  | emptyText
  | notObject (shape : String)
  | unreadableInteger
  | longInteger
  | fraction
  | notFinite
deriving DecidableEq

namespace FieldProblem

def code : FieldProblem → String
  | missing => "missing"
  | notInteger => "int_type"
  | notPositive => "greater_than"
  | notText => "string_type"
  | emptyText => "string_too_short"
  | notObject _ => "model_type"
  | unreadableInteger => "int_parsing"
  | longInteger => "int_parsing_size"
  | fraction => "int_from_float"
  | notFinite => "finite_number"

def message : FieldProblem → String
  | missing => "Field required"
  | notInteger => "Input should be a valid integer"
  | notPositive => "Input should be greater than 0"
  | notText => "Input should be a valid string"
  | emptyText => "String should have at least 1 character"
  | notObject shape => "Input should be a valid dictionary or instance of " ++ shape
  | unreadableInteger => "Input should be a valid integer, unable to parse string as an integer"
  | longInteger => "Unable to parse input string as an integer, exceeded maximum size"
  | fraction => "Input should be a valid integer, got a number with a fractional part"
  | notFinite => "Input should be a finite number"

end FieldProblem

structure FieldError where
  field : String
  problem : FieldProblem
deriving DecidableEq

def errorsOf {α : Type} : Except FieldError α → List FieldError
  | .ok _ => []
  | .error e => [e]

end GridQuery
