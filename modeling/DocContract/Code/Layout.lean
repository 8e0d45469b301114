/-!
# Laying out a line

A line of code is folded where it is too long.  The places where it can be folded belong to
groups: either all of a group are folded or none.  A group stays unfolded when there is
room for it and for all that follows up to the next place where the line may end.  Widths
are counted in bytes.
-/

namespace DocContract.Code

/-- A place where a line can be folded. -/
structure Fold where
  /-- What stands here when the line is not folded. -/
  flat : String := ""
  /-- What ends the line when it is folded. -/
  before : String := ""
  /-- What begins the next line. -/
  after : String := ""
  /-- How far to the left of the other lines of the group the next line begins. -/
  outdent : Nat := 0
deriving DecidableEq, Repr

/-- A line and how it can be folded. -/
inductive Layout where
  | text (text : String)
  | fold (fold : Fold)
  /-- A place up to which the groups in front of it are measured. -/
  | seam
  /-- A group whose lines are indented when it is folded. -/
  | group (indent : Nat) (inner : Layout)
  | append (first second : Layout)
deriving DecidableEq, Repr

instance : Append Layout := ⟨.append⟩

namespace Layout

/-- The width without any folding. -/
def width : Layout → Nat
  | text s => s.utf8ByteSize
  | fold f => f.flat.utf8ByteSize
  | seam => 0
  | group _ inner => inner.width
  | append first second => first.width + second.width

/-- The width up to the first place outside of groups where the line may end, if `after` is
the width of what follows. -/
def reach (after : Nat) : Layout → Nat
  | text s => s.utf8ByteSize + after
  | fold _ => 0
  | seam => 0
  | group _ inner => inner.width + after
  | append first second => first.reach (second.reach after)

end Layout

/-- The width of a line. -/
def margin : Nat := 89

/-- The room that is left to a line however far it is indented. -/
def leastRoom : Nat := 60

def roomAt (indent : Nat) : Int :=
  max ((margin : Int) - indent) leastRoom

def blanks (n : Nat) : String :=
  String.ofList (List.replicate n ' ')

/-- What has been written, and the room that is left on the line. -/
structure Pen where
  written : String
  room : Int
deriving DecidableEq, Repr

namespace Pen

def write (pen : Pen) (text : String) : Pen :=
  { written := pen.written ++ text, room := pen.room - text.utf8ByteSize }

def newLine (pen : Pen) (indent : Nat) : Pen :=
  { written := pen.written ++ "\n" ++ blanks indent, room := roomAt indent }

end Pen

/-- Writes a part of a line: `indent` is that of the group around it, which may be
`folded`, and `after` is the width of what follows. -/
def Layout.write (indent : Nat) (folded : Bool) (after : Nat) (pen : Pen) : Layout → Pen
  | text s => pen.write s
  | fold f =>
    if folded then ((pen.write f.before).newLine (indent - f.outdent)).write f.after
    else pen.write f.flat
  | seam => pen
  | group step inner =>
    if (inner.width + after : Nat) ≤ pen.room then inner.write indent false after pen
    else inner.write (indent + step) true after pen
  | append first second =>
    second.write indent folded after (first.write indent folded (second.reach after) pen)

/-- A line with its indentation. -/
structure Line where
  indent : Nat
  layout : Layout
deriving DecidableEq, Repr

namespace Line

/-- A line that is not indented. -/
def of (layout : Layout) : Line :=
  { indent := 0, layout }

def render (line : Line) : String :=
  let start := { written := blanks line.indent, room := roomAt line.indent }
  (line.layout.write line.indent true 0 start).written ++ "\n"

end Line

def indentStep : Nat := 4

/-- Lines one step to the right. -/
def indented (lines : List Line) : List Line :=
  lines.map fun line => { line with indent := line.indent + indentStep }

def renderLines (lines : List Line) : String :=
  String.join (lines.map Line.render)

namespace Layout

/-- A group in which each line is indented. -/
def args (inner : Layout) : Layout :=
  group indentStep inner

/-- A place between an opening bracket and what follows. -/
def opened : Layout :=
  fold {}

/-- A place between two arguments. -/
def comma : Layout :=
  text "," ++ fold { flat := " " }

/-- A place in front of a closing bracket; a folded list ends in a comma. -/
def closed : Layout :=
  fold { before := ",", outdent := indentStep }

/-- Layouts with a comma between each two. -/
def commaList : List Layout → Layout
  | [] => text ""
  | [item] => item
  | item :: items => item ++ comma ++ commaList items

/-- A list in brackets, which takes a line for each item when it is too long. -/
def bracketed (left right : String) (items : List Layout) : Layout :=
  text left ++ args (opened ++ commaList items ++ closed) ++ text right

end Layout

end DocContract.Code
