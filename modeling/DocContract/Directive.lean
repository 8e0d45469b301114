import DocContract.Column
import DocContract.GrammarError

/-!
# Directives

A directive is a line `[block:kind]`, lines of JSON and a line `[/block]`.  Parameter
tables give their cells under keys `row-column` and their headers under `h-column`, and may
not declare more rows or columns than those keys reach.
-/

namespace DocContract

/-- What a directive can contain. -/
inductive DirectiveKind where
  | parameters
  | code
  | callout
  | image
deriving DecidableEq, Repr

def DirectiveKind.ofName? : List Char → Option DirectiveKind
  | name =>
    match String.ofList name with
    | "parameters" => some .parameters
    | "code" => some .code
    | "callout" => some .callout
    | "image" => some .image
    | _ => none

/-- A parameter table as it is written: its cells by key, and how many columns and rows it
has. -/
structure CellTable where
  cells : List (String × String)
  columns : Nat
  rows : Nat
deriving DecidableEq, Repr

structure CellTable.Draft where
  cells : Option (List (String × String)) := none
  columns : Option Nat := none
  rows : Option Nat := none

namespace CellTable

/-- The members of an object, of which the last with a given key counts. -/
def lastOfEach : List (String × String) → List (String × String)
  | [] => []
  | (key, value) :: members =>
    let later := lastOfEach members
    if later.any (fun member => member.1 == key) then later else (key, value) :: later

/-- Reads a parameter table; the cells may be left out. -/
def reader : Json.Reader CellTable :=
  Json.record (σ := Draft)
    [.ofField "data" Draft.cells
       (fun d cells => { d with cells := some (lastOfEach cells) })
       (Json.object Json.text),
     .ofField "cols" Draft.columns (fun d n => { d with columns := some n }) Json.natural,
     .ofField "rows" Draft.rows (fun d n => { d with rows := some n }) Json.natural]
    {}
    fun draft => do
      return { cells := draft.cells.getD []
               columns := ← draft.columns
               rows := ← draft.rows }

/-- The natural number below `2 ^ 64` that a text writes; a plus sign may precede the
digits. -/
def index? (cs : List Char) : Option Nat :=
  let digits := match cs with
    | '+' :: rest => rest
    | _ => cs
  if digits.isEmpty || !digits.all (fun c => '0' ≤ c && c ≤ '9') then none
  else
    let value := Json.decimalValue digits
    if value < UInt64.size then some value else none

/-- One more than the largest index among some texts, as far as `limit`; zero if there is
none. -/
def reach (limit : Nat) (texts : List (List Char)) : Nat :=
  min limit ((texts.filterMap index?).foldl (fun top n => max top (n + 1)) 0)

/-- The parts of the keys before and after their first hyphen. -/
def coordinates (table : CellTable) : List (List Char × List Char) :=
  table.cells.filterMap fun (key, _) => Text.splitAt? '-' key.toList

/-- How many rows the keys reach, but no more than there are keys. -/
def rowReach (table : CellTable) : Nat :=
  reach table.cells.length (table.coordinates.map (·.1))

/-- How many columns the keys reach, but no more than there are keys. -/
def columnReach (table : CellTable) : Nat :=
  reach table.cells.length (table.coordinates.map (·.2))

def cell (table : CellTable) (key : String) : List Char :=
  ((table.cells.lookup key).getD "").toList

/-- The columns by their headers. -/
def header (table : CellTable) : Except GrammarError (List Column) :=
  (List.range table.columns).mapM fun column =>
    match Column.ofHeader (table.cell ("h-" ++ toString column)) with
    | .ok column => .ok column
    | .error header => .error (.unknownHeader header)

def row (table : CellTable) (row : Nat) : List (List Char) :=
  (List.range table.columns).map fun column =>
    table.cell (toString row ++ "-" ++ toString column)

/-- The parameters of a table that stands at a line. -/
def parameters (table : CellTable) (line : Nat) :
    Except GrammarError (List Parameter) := do
  if table.rowReach < table.rows || table.columnReach < table.columns then
    throw (.tableShape line table.rows table.columns)
  let columns ← table.header
  return (List.range table.rows).map fun row => Parameter.ofRow columns (table.row row)

end CellTable

structure CodeSample.Draft where
  code : Option String := none

def CodeSample.reader : Json.Reader String :=
  Json.record (σ := Draft)
    [.ofField "code" Draft.code (fun d t => { d with code := some t }) Json.text]
    {} Draft.code

structure CodeSamples.Draft where
  codes : Option (List String) := none

/-- Reads a list of code samples, which may be left out. -/
def CodeSamples.reader : Json.Reader (List String) :=
  Json.record (σ := Draft)
    [.ofField "codes" Draft.codes (fun d codes => { d with codes := some codes })
       (Json.array CodeSample.reader)]
    {}
    fun draft => some (draft.codes.getD [])

structure Callout where
  title : String
  body : String
deriving DecidableEq, Repr

structure Callout.Draft where
  title : Option String := none
  body : Option String := none

namespace Callout

/-- Reads a callout, of which everything may be left out. -/
def reader : Json.Reader Callout :=
  Json.record (σ := Draft)
    [.ofField "title" Draft.title (fun d t => { d with title := some t }) Json.text,
     .ofField "body" Draft.body (fun d t => { d with body := some t }) Json.text]
    {}
    fun draft => some { title := draft.title.getD "", body := draft.body.getD "" }

/-- Title and body without the blanks at their ends, on lines of their own; what is empty
is left out. -/
def text (callout : Callout) : List Char :=
  let parts := [callout.title, callout.body].map fun part => Text.trim part.toList
  Text.joinWith ['\n'] (parts.filter fun part => !part.isEmpty)

end Callout

/-- Reads the content of a directive of the given kind at the given line. -/
def readDirective {α : Type} (reader : Json.Reader α) (kind : List Char) (line : Nat)
    (content : List Char) : Except GrammarError α :=
  match Json.readAll reader content with
  | .ok value => .ok value
  | .error fault => .error (.malformedDirective (String.ofList kind) line fault)

/-- The elements of a directive.  An image has none, whatever its content. -/
def directiveElements (kind : List Char) (line : Nat) (content : List Char) :
    Except GrammarError (List Element) :=
  match DirectiveKind.ofName? kind with
  | none => .error (.unsupportedDirective (String.ofList kind) line)
  | some .parameters => do
    let table ← readDirective CellTable.reader kind line content
    return (← table.parameters line).map .parameter
  | some .code => do
    let codes ← readDirective CodeSamples.reader kind line content
    return codes.map fun code => .block { kind := .fencedCode, text := code }
  | some .callout => do
    let callout ← readDirective Callout.reader kind line content
    return [.block { kind := .blockquote, text := String.ofList callout.text }]
  | some .image => .ok []

end DocContract
