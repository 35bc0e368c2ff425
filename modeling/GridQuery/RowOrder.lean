import GridQuery.Text.Case

/-!
# Row order
-/

namespace GridQuery

inductive SortField
  | id
  | createdAt
deriving DecidableEq

def SortField.name : SortField → String
  | id => "id"
  | createdAt => "createdAt"

structure RowOrder where
  field : SortField
  descending : Bool
deriving DecidableEq

namespace RowOrder

/-- The order that a field and a direction name.  For an unknown field it is by id and ascending,
whatever the direction. -/
def ofNames (sortBy : String) (sortOrder : Option String) : RowOrder :=
  let descending := (sortOrder.map fun s => String.ofList (Text.lower s.toList)) == some "desc"
  match sortBy with
  | "id" => ⟨.id, descending⟩
  | "createdAt" => ⟨.createdAt, descending⟩
  | _ => ⟨.id, false⟩

end RowOrder

end GridQuery
