import DocContract.Drift
import DocContract.GrammarError
import DocContract.Schema.Build

/-!
# Comparing a page with its record

The record of a page is a script: each step expects the next element or the endpoint, and
may queue steps that build a part of the schema.  The first difference is a drift.  A
comparison knows nothing of schemas: what it queues are actions on a session of any kind.
They run at the end, when the whole page was as expected, so a page that drifts does not
touch the session.
-/

namespace DocContract

inductive Expectation where
  | block (block : Block)
  | parameter (parameter : Parameter)
  | endpoint (endpoint : Endpoint)
  /-- Nothing: the page is known to leave something out. -/
  | undocumented
deriving DecidableEq, Repr

/-- What is done on a session; it may fail, and what it has changed by then stays
changed. -/
abbrev SessionAction (σ : Type) := σ → Except SchemaError Unit × σ

/-- A call of a comparison, with what it queues for that which it has found. -/
structure Call (σ : Type) where
  expectation : Expectation
  action : Option (Expectation → SessionAction σ)

/-- The action of a call on what it expects. -/
def Call.queued? {σ : Type} (call : Call σ) : Option (SessionAction σ) :=
  call.action.map (· call.expectation)

/-- The steps that build a part of the schema from what was expected and found. -/
abbrev BuildAction := Expectation → List BuildStep

structure ScriptStep where
  expectation : Expectation
  action : Option BuildAction

namespace ScriptStep

/-- The call of a step: what it builds is built in a document. -/
def call (document : String) (step : ScriptStep) : Call BuildState :=
  { expectation := step.expectation
    action := step.action.map fun build found state =>
      runSteps document state (build found) }

-- What a step expects is what it finds, so the parts of the schema can be written down
-- with it.

/-- Expects a block that builds nothing. -/
def seen (block : Block) : ScriptStep :=
  { expectation := .block block, action := none }

def block (block : Block) (steps : List BuildStep) : ScriptStep :=
  { expectation := .block block, action := some fun _ => steps }

def parameter (parameter : Parameter) (steps : List BuildStep) : ScriptStep :=
  { expectation := .parameter parameter, action := some fun _ => steps }

def endpoint (endpoint : Endpoint) (steps : List BuildStep) : ScriptStep :=
  { expectation := .endpoint endpoint, action := some fun _ => steps }

/-- Takes some steps for what the page leaves out. -/
def undocumented (steps : List BuildStep) : ScriptStep :=
  { expectation := .undocumented, action := some fun _ => steps }

end ScriptStep

/-- Why a document contributes nothing to the schema. -/
inductive FetchError where
  /-- The request could not be made. -/
  | http (cause : String)
  /-- No page is served under the URL. -/
  | notFound (url : String)
deriving DecidableEq, Repr

def FetchError.message : FetchError → String
  | http cause => "HTTP request failed: " ++ cause
  | notFound url => "no page available for " ++ url

/-- What can go wrong with a document, in the order in which it is found. -/
inductive DocumentError where
  | fetch (fault : FetchError)
  | grammar (fault : GrammarError)
  | drift (drift : Drift)
  | schema (fault : SchemaError)
deriving DecidableEq, Repr

def DocumentError.message : DocumentError → String
  | fetch fault => "retrieval fault: " ++ fault.message
  | grammar fault => "grammar fault: " ++ fault.message
  | drift found => found.message
  | schema fault => "schema fault: " ++ fault.message

/-- A page that is being compared with its record, and what is to be done on a session in
the end. -/
structure Comparator (σ : Type) where
  document : String
  elements : List Element
  endpoint : Option Endpoint
  /-- How many elements have been found as expected. -/
  position : Nat := 0
  /-- Some call expected an endpoint. -/
  endpointExpected : Bool := false
  queued : List (SessionAction σ) := []

namespace Comparator

variable {σ : Type}

/-- The number of elements that have not been found yet. -/
def remaining (comparison : Comparator σ) : Nat :=
  comparison.elements.length - comparison.position

def driftAt (comparison : Comparator σ) (kind : DriftKind) : Drift :=
  { document := comparison.document, position := comparison.position, kind }

/-- Expects an element to come next. -/
def consume (comparison : Comparator σ) (expected : Element) :
    Except Drift Unit × Comparator σ :=
  match comparison.elements[comparison.position]? with
  | some actual =>
    if actual = expected then
      (.ok (), { comparison with position := comparison.position + 1 })
    else (.error (comparison.driftAt (.mismatch expected actual)), comparison)
  | none => (.error (comparison.driftAt (.missing expected)), comparison)

/-- Expects the page to describe an endpoint that declares all placeholders of its URL. -/
def expectEndpoint (comparison : Comparator σ) (expected : Endpoint) :
    Except Drift Unit × Comparator σ :=
  let after := { comparison with endpointExpected := true }
  match comparison.endpoint with
  | none => (.error (comparison.driftAt (.missingEndpoint expected)), after)
  | some actual =>
    if actual = expected then
      match actual.undeclared? with
      | some parameter =>
        (.error (comparison.driftAt (.undeclaredPathParameter actual.url parameter)),
         after)
      | none => (.ok (), after)
    else (.error (comparison.driftAt (.endpoint expected actual)), after)

/-- Compares without queueing anything. -/
def expect (comparison : Comparator σ) : Expectation → Except Drift Unit × Comparator σ
  | .block b => comparison.consume (.block b)
  | .parameter p => comparison.consume (.parameter p)
  | .endpoint e => comparison.expectEndpoint e
  | .undocumented => (.ok (), comparison)

/-- Answers a call; its action is queued if the expectation is met. -/
def answer (comparison : Comparator σ) (call : Call σ) :
    Except Drift Unit × Comparator σ :=
  match comparison.expect call.expectation with
  | (.ok (), after) =>
    (.ok (), { after with queued := after.queued ++ call.queued?.toList })
  | (.error drift, after) => (.error drift, after)

/-- The drift of a page of which not everything was expected. -/
def leftover? (comparison : Comparator σ) : Option Drift :=
  match comparison.elements[comparison.position]? with
  | some actual => some (comparison.driftAt (.leftover actual comparison.remaining))
  | none =>
    match comparison.endpoint with
    | some actual =>
      if comparison.endpointExpected then none
      else some (comparison.driftAt (.unexpectedEndpoint actual))
    | none => none

/-- Runs what is queued, up to the first action that fails. -/
def runQueued (session : σ) : List (SessionAction σ) → Except SchemaError Unit × σ
  | [] => (.ok (), session)
  | action :: later =>
    match action session with
    | (.ok (), session) => runQueued session later
    | (.error fault, session) => (.error fault, session)

/-- Ends a comparison: everything must have been expected; then what is queued is run. -/
def finish (comparison : Comparator σ) (session : σ) : Except DocumentError Unit × σ :=
  match comparison.leftover? with
  | some drift => (.error (.drift drift), session)
  | none =>
    match runQueued session comparison.queued with
    | (.ok (), session) => (.ok (), session)
    | (.error fault, session) => (.error (.schema fault), session)

end Comparator

/-- A comparison in which a part of a schema is built at the end. -/
abbrev Comparison := Comparator BuildState

namespace Comparison

def take (comparison : Comparison) (step : ScriptStep) : Except Drift Unit × Comparison :=
  comparison.answer (step.call comparison.document)

/-- Takes the steps of a script up to the first drift. -/
def follow (comparison : Comparison) : List ScriptStep → Except Drift Comparison
  | [] => .ok comparison
  | step :: steps =>
    match comparison.take step with
    | (.ok (), after) => after.follow steps
    | (.error drift, _) => .error drift

end Comparison

end DocContract
