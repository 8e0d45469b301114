import DocContract.Element

/-!
# Columns of a parameter table

A table names its columns in several ways; each known header says which cell of a parameter
the column holds.  A row may have fewer cells than the table has columns, and of two
columns for the same cell the later one counts.
-/

namespace DocContract

/-- What a column of a parameter table holds. -/
inductive Column where
  | property
  | type
  | description
  | exampleValue
  /-- Nothing that a parameter has. -/
  | ignored
deriving DecidableEq, Repr

namespace Column

def headers : List (String × Column) :=
  [("", .property), ("Property", .property), ("Field", .property),
   ("Parameter", .property),
   ("Type", .type), ("HTTP method", .type),
   ("Description", .description), ("Endpoint", .description),
   ("Example value", .exampleValue), ("Example values", .exampleValue),
   ("Updatable", .ignored)]

/-- The column under a header, or the header without the blanks at its ends if it is
unknown. -/
def ofHeader (header : List Char) : Except String Column :=
  let name := String.ofList (Text.trim header)
  match headers.lookup name with
  | some column => .ok column
  | none => .error name

/-- Puts a cell into a parameter. -/
def fill (parameter : Parameter) (cell : String) : Column → Parameter
  | property => { parameter with property := cell }
  | type => { parameter with type := cell }
  | description => { parameter with description := cell }
  | exampleValue => { parameter with exampleValue := cell }
  | ignored => parameter

end Column

def Parameter.blank : Parameter :=
  { property := "", type := "", description := "", exampleValue := "" }

/-- The parameter in a row of a table; cells that are missing are empty. -/
def Parameter.ofRow (columns : List Column) (cells : List (List Char)) : Parameter :=
  go .blank columns cells
where
  /-- Fills the cells in from left to right. -/
  go (parameter : Parameter) : List Column → List (List Char) → Parameter
    | [], _ => parameter
    | column :: columns, [] => go (column.fill parameter "") columns []
    | column :: columns, cell :: cells =>
      go (column.fill parameter (String.ofList (Text.trim cell))) columns cells

end DocContract
