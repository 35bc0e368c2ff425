import GridQuery.Store.Serving
import GridQuery.Text.Percent

/-!
# Replies

What a web server answers for a path and a query string.  There is one kind of path, under a prefix,
with a table id in it, and it can only be read.

The parameters of a query string are separated by ampersands, and their names from their values by the
first equals sign.  A plus sign stands for a blank, and bytes come with percent encoding.
-/

namespace GridQuery.Http

def splitAt (separator : Char) : List Char → List (List Char)
  | [] => [[]]
  | c :: rest =>
    if c = separator then [] :: splitAt separator rest
    else match splitAt separator rest with
      | part :: parts => (c :: part) :: parts
      | [] => [[c]]

def decodeField (text : List Char) : String :=
  String.ofList (Text.Percent.decode (text.map fun c => if c = '+' then ' ' else c))

def parameter (text : List Char) : String × String :=
  (decodeField (text.takeWhile (· != '=')), decodeField ((text.dropWhile (· != '=')).drop 1))

/-- The parameters of a query string in their order; empty ones do not count. -/
def parametersOf (query : String) : List (String × String) :=
  ((splitAt '&' query.toList).filter (!·.isEmpty)).map parameter

structure Reply where
  status : Nat
  body : Value

inductive Fault
  | serving (fault : ServingFault)
  | notFinite

def Fault.notFiniteMessage : String := "Out of range float values are not JSON compliant"

namespace Reply

def ofDetail (status : Nat) (detail : String) : Reply :=
  ⟨status, .object [("detail", .text detail)]⟩

def ofFailure (status : Nat) (failure : Failure) : Reply := ⟨status, failure.body⟩

def ofFault? : ServingFault → Option Reply
  | .request (.invalid errors) => some (ofFailure 400 (.ofFieldErrors errors))
  | .assembly (.store (.tableNotFound id)) => some (ofFailure 404 (.tableNotFound (.int id)))
  | .assembly (.store .failed) => some (ofFailure 500 (.store true ""))
  | _ => none

end Reply

mutual

def carried : Value → Bool
  | .real x => x.isFinite
  | .list items => carriedItems items
  | .object fields => carriedFields fields
  | _ => true

def carriedItems : List Value → Bool
  | [] => true
  | item :: items => carried item && carriedItems items

def carriedFields : List (String × Value) → Bool
  | [] => true
  | (_, value) :: fields => carried value && carriedFields fields

end

/-- A path without the line break that it may end with. -/
def withoutBreak (path : List Char) : List Char :=
  if path.getLast? = some '\n' then path.dropLast else path

def tableIdIn? (pathStart path : String) : Option String :=
  let start := splitAt '/' pathStart.toList
  let parts := splitAt '/' (withoutBreak path.toList)
  match parts.drop start.length with
  | [a, id, b, c] =>
    if parts.take start.length = start ∧ a = "tables".toList ∧ id ≠ [] ∧ b = "rows".toList ∧
        c = "filtered".toList then
      some (String.ofList id)
    else none
  | _ => none

/-- The path without slashes at its end, or with one if there are none. -/
def otherEnd (path : String) : String :=
  let chars := path.toList.reverse
  if chars.head? = some '/' then String.ofList (chars.dropWhile (· = '/')).reverse
  else path ++ "/"

def replyTo (store : Store) (setting : Setting) (limits : PageLimits) (tableId : String)
    (parameters : List (String × String)) : Except ServingFault Reply := do
  let values := parameters.foldl (fun fields p => setField p.1 (Value.text p.2) fields) []
  let request ← (RowRequest.ofParameters limits (.text tableId) values).mapError .request
  let response ← store.serve setting request
  let body ← response.toValue.mapError .quotient
  return ⟨200, body⟩

def reply (store : Store) (setting : Setting) (limits : PageLimits)
    (pathStart method path query : String) : Except Fault Reply :=
  match tableIdIn? pathStart path with
  | none =>
    if path ≠ "/" ∧ (tableIdIn? pathStart (otherEnd path)).isSome then .ok ⟨307, .null⟩
    else .ok (.ofDetail 404 "Not Found")
  | some tableId =>
    if method ≠ "GET" then .ok (.ofDetail 405 "Method Not Allowed")
    else match replyTo store setting limits tableId (parametersOf query) with
      | .ok reply => if carried reply.body then .ok reply else .error .notFinite
      | .error fault => match Reply.ofFault? fault with
        | some reply => .ok reply
        | none => .error (.serving fault)

end GridQuery.Http
