import DocContract.Run

/-!
# Reports of failed runs

A failed run is reported on the terminal, with the document in bold and the class of its
fault in red, or as JSON, in which a drift keeps both sides.
-/

namespace DocContract

/-- A text in a style of the terminal, which `on` begins and `off` ends. -/
def styled (on off text : String) : String :=
  "\x1b[" ++ on ++ "m" ++ text ++ "\x1b[" ++ off ++ "m"

def bold (text : String) : String :=
  styled "1" "0" text

def dimmed (text : String) : String :=
  styled "2" "0" text

def red (text : String) : String :=
  styled "31" "39" text

def DocumentError.faultClass : DocumentError → String
  | fetch _ => "retrieval"
  | grammar _ => "grammar"
  | drift _ => "drift"
  | schema _ => "schema"

/-- What went wrong with a document, on a line of the terminal. -/
def DocumentError.terminalLine : DocumentError → String
  | drift found =>
    "  " ++ dimmed ("element " ++ toString found.position ++ ":") ++ " " ++
      found.kind.message ++ "\n"
  | error => "  " ++ error.message ++ "\n"

def Failure.terminalReport (failure : Failure) : String :=
  bold failure.document ++ " " ++ red (failure.error.faultClass ++ " fault") ++ "\n" ++
    failure.error.terminalLine

def RunError.terminalReport : RunError → String
  | documents failures =>
    String.join (failures.map Failure.terminalReport) ++ "\n" ++
      bold (red ("Summary: " ++ toString failures.length ++ " document(s) failed")) ++ "\n"
  | error => bold (red error.message) ++ "\n"

def Failure.toJson (failure : Failure) : Json.Value :=
  .object
    ([("document", .text failure.document), ("fault", .text failure.error.faultClass),
      ("message", .text failure.error.message)] ++
      match failure.error with
      | .drift found => [("drift", found.toJson)]
      | _ => [])

/-- A run that failed as a JSON object, with its members in order. -/
def RunError.toJson (error : RunError) : Json.Value :=
  let cause := match error with
    | documents failures => ("documents", .array (failures.map Failure.toJson))
    | finalize fault => ("finalize", .text fault.message)
    | emit fault => ("emit", .text fault.message)
  (Json.Value.object [("status", .text "failed"), cause]).sorted

end DocContract
