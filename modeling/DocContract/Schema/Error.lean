import DocContract.Schema.Symbol
import DocContract.Text.Letter

/-!
# Contradictions in a schema

Why a step of building a schema is refused, or why a schema does not hold together.
-/

namespace DocContract

inductive SchemaError where
  /-- A name is declared as two kinds of symbols. -/
  | kindConflict (name : String) (existing requested : SymbolKind)
  /-- No symbol has the name. -/
  | unknownSymbol (name : String)
  /-- A field is added to a symbol that has none. -/
  | notAFieldContainer (name : String) (kind : SymbolKind)
  /-- A field is declared with two shapes. -/
  | fieldConflict (symbol field : String)
  /-- A field is to be constant, but its text is no quoted literal of its own. -/
  | notALiteral (field text : String)
  /-- Nothing tells a member of a union from the others. -/
  | unresolvedDiscriminator (union member : String)
deriving DecidableEq, Repr

def tickQuoted (name : String) : String :=
  "\x60" ++ name ++ "\x60"

def SchemaError.message : SchemaError → String
  | kindConflict name existing requested =>
    "symbol " ++ tickQuoted name ++ " is already a " ++ existing.display ++
      ", cannot register it as a " ++ requested.display
  | unknownSymbol name => "unknown symbol " ++ tickQuoted name
  | notAFieldContainer name kind =>
    "symbol " ++ tickQuoted name ++ " is a " ++ kind.display ++ " and cannot hold fields"
  | fieldConflict symbol field =>
    "field " ++ tickQuoted field ++ " of " ++ tickQuoted symbol ++
      " is already declared with a different shape"
  | notALiteral field text =>
    "field " ++ tickQuoted field ++ " is not a constant: " ++ Text.quoted text ++
      " is not a quoted literal"
  | unresolvedDiscriminator union member =>
    tickQuoted member ++ " resolves no discriminator value for union " ++ tickQuoted union

end DocContract
