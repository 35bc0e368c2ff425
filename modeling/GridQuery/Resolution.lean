import GridQuery.Catalog

/-!
# Resolution

Every criterion is either resolved, with its column, operator and coerced values, or dropped with the
reasons.  Dropped criteria never fail a request.
-/

namespace GridQuery

structure Resolved where
  criterion : Criterion
  column : Column
  operator : Operator
  value : Value
  secondValue : Value

def Resolved.family (resolved : Resolved) : Family := resolved.column.family

inductive DropReason
  | unfit (problem : Unfit)
  | refused (field : ValueField) (fault : CoercionFault)

def DropReason.message : DropReason → String
  | unfit problem => problem.message
  | refused field fault => field.name ++ ": " ++ fault.message

structure Dropped where
  criterion : Criterion
  reasons : List DropReason

inductive Resolution
  | resolved (resolved : Resolved)
  | dropped (dropped : Dropped)

/-- Coerces the values that an operator needs, up to the first that is refused; the others are
null. -/
def coerceFields (zone : Zone) (type : String) (criterion : Criterion) :
    List ValueField → Except Impasse (Except DropReason (List Value))
  | [] => .ok (.ok [])
  | field :: fields => do
    match ← coerce zone type (field.of criterion) with
    | .refused fault => return .error (.refused field fault)
    | .usable value => return (← coerceFields zone type criterion fields).map (value :: ·)

def Criterion.resolve (zone : Zone) (schema : Schema) (criterion : Criterion) :
    Except Impasse Resolution := do
  match criterion.unfit zone schema, schema.column? criterion.columnId with
  | [], some column =>
    match operatorFor? criterion column with
    | none => return .dropped ⟨criterion, []⟩
    | some operator =>
      match ← coerceFields zone column.type criterion operator.fields with
      | .error reason => return .dropped ⟨criterion, [reason]⟩
      | .ok values => return .resolved {
          criterion
          column
          operator
          value := values.headD .null
          secondValue := values.getD 1 .null }
  | problems, _ => return .dropped ⟨criterion, problems.map .unfit⟩

def resolveAll (zone : Zone) (schema : Schema) :
    List Criterion → Except Impasse (List Resolved × List Dropped)
  | [] => .ok ([], [])
  | criterion :: criteria => do
    let outcome ← criterion.resolve zone schema
    let (resolved, dropped) ← resolveAll zone schema criteria
    match outcome with
    | .resolved r => return (r :: resolved, dropped)
    | .dropped d => return (resolved, d :: dropped)

end GridQuery
