import DocContract.Markdown.Line

/-!
# Blocks of a markup text

The block structure of a text: headings, paragraphs, code, tables and the rest, and the
lists and quotations that contain them.  Every block knows the span of the text it stands
in.
-/

namespace DocContract.Markdown

/-- A part of a text: the offsets of its first character and of the first after it. -/
structure Span where
  start : Nat
  stop : Nat
deriving DecidableEq, Repr

def Span.extract (span : Span) (text : List Char) : List Char :=
  (text.drop span.start).take (span.stop - span.start)

inductive Node where
  | paragraph (span : Span)
  | heading (span : Span)
  /-- Code, with its lines as they read without fence and indentation. -/
  | code (span : Span) (content : List Char)
  | html (span : Span)
  | rule (span : Span)
  /-- A table, with the spans of its cells. -/
  | table (span : Span) (header : List Span) (rows : List (List Span))
  | quote (span : Span) (children : List Node)
  | list (span : Span) (items : List Node)
  /-- An item of a list. -/
  | item (span : Span) (children : List Node)

/-- A block that contains others. -/
inductive Container where
  /-- A list whose items have this mark. -/
  | list (mark : Char)
  /-- An item whose lines are indented by this many columns. -/
  | item (indent : Nat)
  | quote
deriving DecidableEq, Repr

/-- Reads what a line must begin with to stay inside a container. -/
def Container.enter? (container : Container) (line : LineStart) : Option LineStart :=
  match container with
  | .list _ => some line
  | .item indent =>
    let (missing, inside) := line.indent indent
    if missing = 0 || inside.atEnd then some inside else none
  | .quote =>
    let (_, marked) := line.indent 3
    match marked.place.rest with
    | '>' :: _ => some ((marked.advance 1).indent 1).2
    | _ => none

/-- Enters the containers a line stays in, from the outermost on; answers whether it stays
in all of them, how many those are, and the line after them. -/
def enterAll : List Container → LineStart → Bool × Nat × LineStart
  | [], line => (true, 0, line)
  | container :: containers, line =>
    match container.enter? line with
    | none => (false, 0, line)
    | some inside =>
      let (all, n, rest) := enterAll containers inside
      (all, n + 1, rest)

/-- A container that is still open, with the blocks it holds so far, the last first. -/
structure Frame where
  container : Container
  start : Nat
  children : List Node

/-- The finished block of a container that ends at `stop`. -/
def Frame.close (frame : Frame) (stop : Nat) : Node :=
  let span := { start := frame.start, stop }
  match frame.container with
  | .list _ => .list span frame.children.reverse
  | .item _ => .item span frame.children.reverse
  | .quote => .quote span frame.children.reverse

/-- Blocks under construction. -/
structure Outline where
  /-- The finished blocks that stand in no container, the last first. -/
  finished : List Node := []
  /-- The open containers, the innermost first. -/
  opened : List Frame := []
  /-- The innermost container is a list item that has had no text yet. -/
  bareItem : Bool := false

namespace Outline

/-- The open containers, the outermost first. -/
def containers (outline : Outline) : List Container :=
  (outline.opened.map (·.container)).reverse

/-- Adds a finished block to the innermost container. -/
def add (outline : Outline) (node : Node) : Outline :=
  match outline.opened with
  | [] => { outline with finished := node :: outline.finished }
  | frame :: frames =>
    { outline with opened := { frame with children := node :: frame.children } :: frames }

def closeOne (outline : Outline) (stop : Nat) : Outline :=
  match outline.opened with
  | [] => outline
  | frame :: frames => { outline with opened := frames }.add (frame.close stop)

/-- Ends containers until only `depth` are open. -/
def closeTo (outline : Outline) (depth stop : Nat) : Outline :=
  (List.range (outline.opened.length - depth)).foldl (fun o _ => o.closeOne stop) outline

def enter (outline : Outline) (container : Container) (start : Nat) : Outline :=
  { outline with opened := { container, start, children := [] } :: outline.opened }

/-- Ends the innermost container if it is a list. -/
def endList (outline : Outline) (stop : Nat) : Outline :=
  match outline.opened with
  | { container := .list _, .. } :: _ => outline.closeOne stop
  | _ => outline

/-- Makes a list with this mark the innermost container. -/
def continueList (outline : Outline) (start : Nat) (mark : Char) : Outline :=
  match outline.opened with
  | { container := .list existing, .. } :: _ =>
    if existing = mark then outline
    else (outline.closeOne start).enter (.list mark) start
  | _ => outline.enter (.list mark) start

end Outline

end DocContract.Markdown
