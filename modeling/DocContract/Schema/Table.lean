import DocContract.Schema.Error

/-!
# Symbol tables

A table holds symbols in the order in which they were first declared, at most one of each
name.
-/

namespace DocContract

abbrev SymbolTable := List Symbol

/-- A symbol with one more field; answers the field as it is now. -/
def Symbol.attach (symbol : Symbol) (added : Field) :
    Except SchemaError (Symbol × Field) :=
  match symbol with
  | record r =>
    match mergeField? r.fields added with
    | some (fields, stored) => .ok (record { r with fields }, stored)
    | none => .error (.fieldConflict r.name added.name)
  | closedUnion u =>
    match mergeField? u.fields added with
    | some (fields, stored) => .ok (closedUnion { u with fields }, stored)
    | none => .error (.fieldConflict u.name added.name)
  | symbol => .error (.notAFieldContainer symbol.name symbol.kind)

namespace SymbolTable

def names (table : SymbolTable) : List String :=
  table.map Symbol.name

def get? (table : SymbolTable) (name : String) : Option Symbol :=
  List.find? (·.name == name) table

/-- Declares a symbol.  A symbol of that name and kind stays as it is, apart from its
comment. -/
def intern (symbol : Symbol) : SymbolTable → Except SchemaError SymbolTable
  | [] => .ok [symbol]
  | existing :: later =>
    if existing.name = symbol.name then
      if existing.kind = symbol.kind then .ok (existing.adoptComment symbol :: later)
      else .error (.kindConflict symbol.name existing.kind symbol.kind)
    else
      match intern symbol later with
      | .ok later => .ok (existing :: later)
      | .error fault => .error fault

/-- Adds a field to the symbol with a name; answers the field as it is now. -/
def attach (target : String) (added : Field) :
    SymbolTable → Except SchemaError (SymbolTable × Field)
  | [] => .error (.unknownSymbol target)
  | symbol :: later =>
    if symbol.name = target then
      match symbol.attach added with
      | .ok (symbol, stored) => .ok (symbol :: later, stored)
      | .error fault => .error fault
    else
      match attach target added later with
      | .ok (later, stored) => .ok (symbol :: later, stored)
      | .error fault => .error fault

end SymbolTable

end DocContract
