import GridQuery.FieldError
import GridQuery.Value.Shown

/-!
# Failures

What a client is told when a request fails.  A failure of the store keeps its reason to itself.
-/

namespace GridQuery

inductive Failure
  | unspecified (reason : String)
  | invalid (details : List Value) (summary : String)
  | tableNotFound (id : Value)
  | store (ofRows : Bool) (reason : String)

namespace Failure

def detail (field message : String) : Value :=
  .object [("field", .text field), ("message", .text message)]

/-- The details that a value gives: a text is about the request as a whole. -/
def detailsOf : Value → List Value
  | .text message => [detail "__root__" message]
  | .list details => details
  | .object fields => fields.map fun field => .text field.1
  | _ => []

def invalidSummary : String := "Invalid query parameters"

def ofFieldErrors (errors : List FieldError) : Failure :=
  invalid (errors.map fun e => detail e.field e.problem.message) invalidSummary

def code : Failure → String
  | unspecified _ | store .. => "INTERNAL_ERROR"
  | invalid .. => "VALIDATION_ERROR"
  | tableNotFound _ => "NOT_FOUND"

def message : Failure → String
  | unspecified reason | store _ reason => reason
  | invalid _ summary => summary
  | tableNotFound id => "Table with id=" ++ id.shown ++ " not found"

def shownMessage : Failure → String
  | store .. => "Failed to fetch filtered rows"
  | failure => failure.message

def body (failure : Failure) : Value := .object ([
  ("error", .text failure.shownMessage),
  ("code", .text failure.code)] ++
  match failure with
  | invalid details _ => [("details", .list details)]
  | _ => [])

end Failure

end GridQuery
