import DocContract.Element
import DocContract.Endpoint
import DocContract.Schema.Error

/-!
# Drift

A page drifts when it is not what was recorded of it.  A drift says at which element of
which document, and carries both sides.
-/

namespace DocContract

/-- How a page differs from its record. -/
inductive DriftKind where
  /-- The next element is another than expected. -/
  | mismatch (expected actual : Element)
  /-- The page ends where an element is expected. -/
  | missing (expected : Element)
  /-- The page goes on where nothing is expected. -/
  | leftover (actual : Element) (remaining : Nat)
  | endpoint (expected actual : Endpoint)
  /-- The page describes no endpoint. -/
  | missingEndpoint (expected : Endpoint)
  /-- The page describes an endpoint, but none is expected. -/
  | unexpectedEndpoint (actual : Endpoint)
  /-- A placeholder of the URL is declared by no parameter in the path. -/
  | undeclaredPathParameter (url parameter : String)
deriving DecidableEq, Repr

structure Drift where
  document : String
  /-- How many elements were as expected. -/
  position : Nat
  kind : DriftKind
deriving DecidableEq, Repr

/-- An endpoint with the number of its parameters. -/
def Endpoint.summary (endpoint : Endpoint) : String :=
  endpoint.title ++ " (" ++ toString endpoint.parameters.length ++ " parameters)"

def DriftKind.message : DriftKind → String
  | mismatch expected actual =>
      "expected " ++ expected.display ++ ", found " ++ actual.display
  | missing expected => "expected " ++ expected.display ++ ", found end of page"
  | leftover actual remaining =>
    toString remaining ++ " element(s) left unexpected, starting with " ++ actual.display
  | endpoint expected actual =>
    "expected endpoint " ++ expected.summary ++ ", found " ++ actual.summary
  | missingEndpoint expected =>
    "expected endpoint " ++ expected.title ++ ", page describes none"
  | unexpectedEndpoint actual =>
    "page describes endpoint " ++ actual.title ++ " but none was expected"
  | undeclaredPathParameter url parameter =>
    "URL template " ++ url ++ " uses \x7b" ++ parameter ++
      "\x7d but no path parameter declares it"

def Drift.message (drift : Drift) : String :=
  "documentation drift in " ++ tickQuoted drift.document ++ " at element " ++
    toString drift.position ++ ": " ++ drift.kind.message

def DriftKind.toJson : DriftKind → Json.Value
  | mismatch expected actual =>
    .object
      [("drift", .text "mismatch"), ("expected", expected.toJson),
       ("actual", actual.toJson)]
  | missing expected => .object [("drift", .text "missing"), ("expected", expected.toJson)]
  | leftover actual remaining =>
    .object
      [("drift", .text "leftover"), ("actual", actual.toJson),
       ("remaining", .natural remaining)]
  | endpoint expected actual =>
    .object
      [("drift", .text "endpoint"), ("expected", expected.toJson),
       ("actual", actual.toJson)]
  | missingEndpoint expected =>
    .object [("drift", .text "missing_endpoint"), ("expected", expected.toJson)]
  | unexpectedEndpoint actual =>
    .object [("drift", .text "unexpected_endpoint"), ("actual", actual.toJson)]
  | undeclaredPathParameter url parameter =>
    .object
      [("drift", .text "undeclared_path_parameter"), ("url", .text url),
       ("parameter", .text parameter)]

def Drift.toJson (drift : Drift) : Json.Value :=
  .object
    [("document", .text drift.document), ("position", .natural drift.position),
     ("kind", drift.kind.toJson)]

end DocContract
