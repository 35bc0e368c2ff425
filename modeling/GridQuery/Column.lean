/-!
# Columns

A column declares the type of its cells by name.  The known types fall into families that share
operators and rules of comparison; all other types form a family of their own.  A schema holds the
columns of a table in their declared order.
-/

namespace GridQuery

inductive Family
  | text
  | numeric
  | boolean
  | date
  | reference
  | other
deriving DecidableEq

namespace Family

def all : List Family := [text, numeric, boolean, date, reference, other]

def name : Family → String
  | text => "text"
  | numeric => "numeric"
  | boolean => "boolean"
  | date => "date"
  | reference => "reference"
  | other => "other"

def ofType (type : String) : Family :=
  match type with
  | "text" | "string" | "email" | "url" => text
  | "number" | "integer" | "decimal" => numeric
  | "boolean" => boolean
  | "date" | "datetime" => date
  | "reference" | "customArray" => reference
  | _ => other

end Family

def isStructured (type : String) : Bool := type == "json" || type == "customArray"

structure Column where
  id : Int
  name : String
  type : String
  order : Int
  referenceTable : Option Int
deriving DecidableEq

namespace Column

def family (column : Column) : Family := Family.ofType column.type

/-- Columns come by declared order, and by id where that is the same. -/
def precedes (a b : Column) : Bool := a.order < b.order || (a.order == b.order && a.id ≤ b.id)

end Column

structure Schema where
  columns : List Column

namespace Schema

def ofList (columns : List Column) : Schema := ⟨columns.mergeSort Column.precedes⟩

/-- The column with an id, the last one if there are several. -/
def column? (schema : Schema) (id : Int) : Option Column :=
  schema.columns.reverse.find? (·.id == id)

def place (schema : Schema) (id : Int) : Bool × Int :=
  match schema.column? id with
  | some column => (false, column.order)
  | none => (true, 0)

end Schema

end GridQuery
