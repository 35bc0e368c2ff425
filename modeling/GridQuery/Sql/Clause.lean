import GridQuery.Predicate

/-!
# Clauses

The text of conditions and predicates in SQL, with the parameters of its placeholders in their order.
Two dialects are written.
-/

namespace GridQuery.Sql

inductive Parameter
  | id (n : Int)
  | text (s : String)
  | number (x : Double)
  | instant (i : Instant)

structure Clause where
  text : String
  parameters : List Parameter

structure Dialect where
  placeholder : Parameter → String
  flag : Bool → String
  never : String
  matching : String
  searching : String × String

namespace Dialect

def sqlite : Dialect where
  placeholder _ := "?"
  flag flag := if flag then "1" else "0"
  never := "0 = 1"
  matching := "REGEXP"
  searching := ("(lower(tabula_cells.text_value) LIKE '%' || lower(", ") || '%' ESCAPE '/')")

def postgresql : Dialect where
  placeholder
    | .id _ => "%s::INTEGER"
    | .text _ => "%s::VARCHAR"
    | .number _ => "%s"
    | .instant _ => "%s::TIMESTAMP WITHOUT TIME ZONE"
  flag flag := if flag then "true" else "false"
  never := "false"
  matching := "~"
  searching := ("(tabula_cells.text_value ILIKE '%%' || ", " || '%%' ESCAPE '/')")

def ofName (name : String) : Dialect := if name == "postgresql" then postgresql else sqlite

end Dialect

namespace Clause

def ofText (text : String) : Clause := ⟨text, []⟩

def append (a b : Clause) : Clause := ⟨a.text ++ b.text, a.parameters ++ b.parameters⟩

instance : Append Clause := ⟨append⟩

def ofParameter (dialect : Dialect) (parameter : Parameter) : Clause :=
  ⟨dialect.placeholder parameter, [parameter]⟩

end Clause

open Clause

def comparisonSign : Comparison → String
  | .equal => " = "
  | .less => " < "
  | .greater => " > "
  | .lessOrEqual => " <= "
  | .greaterOrEqual => " >= "

def comparison (dialect : Dialect) (projection sign : String) (parameter : Parameter) : Clause :=
  ofText (projection ++ sign) ++ ofParameter dialect parameter

def range (dialect : Dialect) (projection : String) (low high : Parameter) : Clause :=
  ofText (projection ++ " BETWEEN ") ++ ofParameter dialect low ++ ofText " AND " ++
    ofParameter dialect high

def test (dialect : Dialect) : CellTest → Clause
  | .hasText => ofText "tabula_cells.text_value IS NOT NULL"
  | .trimmedTextIs text => comparison dialect "trim(tabula_cells.text_value)" " = " (.text text)
  | .textIs text => comparison dialect "tabula_cells.text_value" " = " (.text text)
  | .matching pattern =>
    comparison dialect "tabula_cells.text_value" (" " ++ dialect.matching ++ " ") (.text pattern)
  | .flagIs flag => ofText ("tabula_cells.bool_value = " ++ dialect.flag flag)
  | .number sign operand =>
    comparison dialect "tabula_cells.number_value" (comparisonSign sign) (.number operand)
  | .numberWithin low high => range dialect "tabula_cells.number_value" (.number low) (.number high)
  | .instant sign operand =>
    comparison dialect "tabula_cells.date_value" (comparisonSign sign) (.instant operand)
  | .instantWithin low high =>
    range dialect "tabula_cells.date_value" (.instant low) (.instant high)

def columnTest (dialect : Dialect) (columnId : Int) (cellTest : CellTest) : Clause :=
  comparison dialect "tabula_cells.column_id" " = " (.id columnId) ++ ofText " AND " ++
    test dialect cellTest

def someCell (clause : Clause) : Clause :=
  ofText ("EXISTS (SELECT 1 FROM tabula_cells, tabula_rows " ++
    "WHERE tabula_rows.id = tabula_cells.row_id AND ") ++ clause ++ ofText ")"

def enclosed (clause : Clause) : Clause := ofText "(" ++ clause ++ ofText ")"

def condition (dialect : Dialect) : Condition → Clause
  | .someCell columnId cellTest => someCell (columnTest dialect columnId cellTest)
  | .noCell columnId cellTest =>
    ofText "NOT " ++ enclosed (someCell (columnTest dialect columnId cellTest))
  | .someText term => someCell (ofText dialect.searching.1 ++
      ofParameter dialect (.text (String.ofList (Text.literal '/' term.toList))) ++
      ofText dialect.searching.2)
  | .never => someCell (ofText dialect.never)

def conjunct (dialect : Dialect) (c : Condition) : Clause :=
  match c with
  | .noCell .. => condition dialect c
  | c => enclosed (condition dialect c)

def predicate (dialect : Dialect) (p : Predicate) : Clause :=
  p.conditions.foldl (fun clause c => clause ++ ofText " AND " ++ conjunct dialect c)
    (comparison dialect "tabula_rows.table_id" " = " (.id p.tableId))

end GridQuery.Sql
