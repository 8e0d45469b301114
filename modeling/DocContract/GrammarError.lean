import DocContract.Json.Reader
import DocContract.Text.Letter

/-!
# Faults of a page

What can be wrong with a page before it is compared with anything: its body has markup that
stands for no element, or its payload is missing or not what a payload should be.
-/

namespace DocContract

/-- Why a page cannot be read. -/
inductive GrammarError where
  /-- A directive of no known kind. -/
  | unsupportedDirective (kind : String) (line : Nat)
  /-- A directive whose content is not the JSON of its kind. -/
  | malformedDirective (kind : String) (line : Nat) (fault : Json.Fault)
  /-- A directive without its closing line. -/
  | unterminatedDirective (kind : String) (line : Nat)
  /-- A parameter table that declares more rows or columns than its data reach. -/
  | tableShape (line rows columns : Nat)
  /-- A column with a header of no known meaning. -/
  | unknownHeader (header : String)
  /-- A block for which there is no element. -/
  | unsupportedMarkup (line : Nat) (snippet : String)
  /-- No element of the page has the attribute that holds the payload. -/
  | missingPayload (name : String)
  /-- A payload that is not the JSON of a page. -/
  | malformedPayload (fault : Json.Fault)
deriving DecidableEq, Repr

/-- What stands in a message for the exact fault of a JSON text. -/
def Json.Fault.message (_ : Json.Fault) : String :=
  "<json error>"

/-- The opening line of a directive, as messages show it. -/
def GrammarError.directiveMark (kind : String) : String :=
  "\x60[block:" ++ kind ++ "]\x60"

def GrammarError.message : GrammarError → String
  | unsupportedDirective kind line =>
    "unsupported directive " ++ directiveMark kind ++ " at line " ++ toString line
  | malformedDirective kind line fault =>
    "malformed " ++ directiveMark kind ++ " directive at line " ++ toString line ++ ": " ++
      fault.message
  | unterminatedDirective kind line =>
    "directive " ++ directiveMark kind ++ " opened at line " ++ toString line ++
      " is never closed"
  | tableShape line rows columns =>
    "parameter table at line " ++ toString line ++ " declares " ++ toString rows ++
      " row(s) and " ++ toString columns ++ " column(s) beyond its data"
  | unknownHeader header => "unknown table header " ++ Text.quoted header
  | unsupportedMarkup line snippet =>
    "unsupported markup at line " ++ toString line ++ ": " ++ Text.quoted snippet
  | missingPayload name =>
    "page has no element carrying the \x60" ++ name ++ "\x60 payload"
  | malformedPayload fault => "page payload is not valid: " ++ fault.message

end DocContract
