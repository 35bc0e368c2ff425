import GridQuery.Pattern.Matcher
import GridQuery.Pattern.Reader
import GridQuery.Resolution
import GridQuery.Row

/-!
# Residual matching

The exact match of text criteria on rows that a store has only narrowed down.  Texts are compared in
small letters.  A row without a value in the column passes no criterion, not even a negated one; a
criterion that asks for nothing is left out.
-/

namespace GridQuery

def Text.occursIn (needle : List Char) : List Char → Bool
  | [] => needle.isEmpty
  | c :: rest => needle.isPrefixOf (c :: rest) || occursIn needle rest

namespace Residual

def folded (value : Value) : List Char :=
  Text.lower ((value.canonicalText? "").getD "None").toList

def matchesPattern (pattern text : String) : Bool :=
  (Pattern.ofText? pattern).any (·.occursIn text)

def evaluator? : Operator → Option (Value → Value → Bool)
  | .contains => some fun cell needle => Text.occursIn (folded needle) (folded cell)
  | .notContains => some fun cell needle => !Text.occursIn (folded needle) (folded cell)
  | .startsWith => some fun cell needle => (folded needle).isPrefixOf (folded cell)
  | .endsWith => some fun cell needle => (folded needle).isSuffixOf (folded cell)
  | .regex => some fun cell pattern =>
    matchesPattern pattern.plain ((cell.canonicalText? "").getD "None")
  | _ => none

def evaluable : List Operator := Operator.all.filter fun operator => (evaluator? operator).isSome

def unsupportedMessage (operator : String) : String :=
  "Unsupported operator for residual evaluation: " ++ operator

def evaluate? (registered : List Operator) (operator : Operator) (cell filter : Value) :
    Option Bool :=
  if operator ∈ registered then (evaluator? operator).map fun holds => holds cell filter else none

def isGiven : Value → Bool
  | .null => false
  | .text s => s != ""
  | _ => true

end Residual

structure ResidualEngine where
  operators : List Operator
  registered : List Operator
  supported : ∀ operator ∈ operators, operator ∈ registered

namespace ResidualEngine

def ofOperators (operators registered : List Operator) : Except (List Operator) ResidualEngine :=
  if h : ∀ operator ∈ operators, operator ∈ registered then .ok ⟨operators, registered, h⟩
  else .error (operators.filter (· ∉ registered)).eraseDups

def missingMessage (missing : List Operator) : String :=
  "No residual evaluator for: " ++
    ", ".intercalate ((missing.map Operator.name).mergeSort fun a b => decide (a ≤ b))

def concerns (engine : ResidualEngine) (resolved : Resolved) : Bool :=
  resolved.family = .text && resolved.operator ∈ engine.operators &&
    Residual.isGiven resolved.value

def criteria (engine : ResidualEngine) (resolved : List Resolved) : List Resolved :=
  resolved.filter engine.concerns

def passes (engine : ResidualEngine) (row : Row) (criterion : Resolved) : Bool :=
  match row.cell? criterion.column.id with
  | none => false
  | some cell =>
    Residual.isGiven cell.value &&
      (Residual.evaluate? engine.registered criterion.operator cell.value criterion.value).getD
        false

/-- The criteria among those of a request that the engine evaluates.  It resolves them by itself, and
passes over those that are dropped. -/
def select (engine : ResidualEngine) (zone : Zone) (schema : Schema) :
    List Criterion → Except Impasse (List Resolved)
  | [] => .ok []
  | criterion :: criteria => do
    let outcome ← criterion.resolve zone schema
    let selected ← engine.select zone schema criteria
    match outcome with
    | .resolved resolved => return if engine.concerns resolved then resolved :: selected else selected
    | .dropped _ => return selected

def keep (engine : ResidualEngine) (zone : Zone) (schema : Schema) (criteria : List Criterion)
    (rows : List Row) : Except Impasse (List Row) := do
  let selected ← engine.select zone schema criteria
  return rows.filter fun row => selected.all (engine.passes row)

end ResidualEngine

end GridQuery
