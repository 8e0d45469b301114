import DocContract.Html.Token

/-!
# Open elements

The elements that are open while a document is read, and the list of all elements in tree
order.  An element goes in behind the last descendant of its parent; what a table must not
contain goes in front of the table.
-/

namespace DocContract.Html

/-- The vocabulary an element belongs to. -/
inductive Vocabulary where
  | html
  | svg
  | mathml
deriving DecidableEq, Repr

/-- An element that has its place in the tree. -/
structure Placed where
  id : Nat
  depth : Nat
  tag : Tag
deriving Repr

structure OpenElement where
  id : Nat
  depth : Nat
  name : String
  vocabulary : Vocabulary
  /-- HTML may stand in this element although it is not of HTML. -/
  holdsHtml : Bool
deriving Repr

/-- What determines how the next token is treated. -/
inductive Mode where
  | initial
  | beforeHtml
  | beforeHead
  | inHead
  | afterHead
  | inBody
  | inTable
  | inCaption
  | inColumnGroup
  | inTableBody
  | inRow
  | inCell
  | inSelect
  | inSelectInTable
  | inTemplate
  | afterBody
  | inFrameset
  | afterFrameset
  | afterAfterBody
deriving DecidableEq, Repr

/-- A document that is being read. -/
structure Tree where
  /-- The elements in tree order. -/
  placed : List Placed := []
  nextId : Nat := 0
  mode : Mode := .initial
  /-- The open elements, the innermost first. -/
  opened : List OpenElement := []
  head : Option OpenElement := none
  /-- A form outside of templates is open. -/
  form : Option Nat := none
  framesetAllowed : Bool := true
  templateModes : List Mode := []
  /-- What a table must not contain goes in front of it. -/
  fosters : Bool := false
deriving Repr

namespace Tree

/-- The innermost open element is one of HTML with one of these names. -/
def currentIs (tree : Tree) (names : List String) : Bool :=
  match tree.opened with
  | element :: _ => element.vocabulary == .html && names.contains element.name
  | [] => false

def hasOpen (tree : Tree) (name : String) : Bool :=
  tree.opened.any fun element => element.vocabulary == .html && element.name == name

/-- The elements of HTML that end every scope. -/
def scopeEnds : List String :=
  ["applet", "caption", "html", "table", "td", "th", "marquee", "object", "template"]

/-- Whether an element ends the usual scope. -/
def endsScope (element : OpenElement) : Bool :=
  match element.vocabulary with
  | .html => scopeEnds.contains element.name
  | _ => element.holdsHtml

/-- Whether one of some names is found before the scope ends. -/
def inScopeUntil (ends : OpenElement → Bool) (names : List String) :
    List OpenElement → Bool
  | [] => false
  | element :: outer =>
    if element.vocabulary == .html && names.contains element.name then true
    else if ends element then false
    else inScopeUntil ends names outer

/-- Whether an element with one of these names is in scope. -/
def inScope (tree : Tree) (names : List String) : Bool :=
  inScopeUntil endsScope names tree.opened

/-- Whether a paragraph or button is in the scope that a button ends. -/
def inButtonScope (tree : Tree) (name : String) : Bool :=
  inScopeUntil
    (fun element =>
      endsScope element || (element.vocabulary == .html && element.name == "button"))
    [name] tree.opened

/-- Whether a list item is in the scope that a list ends. -/
def inListScope (tree : Tree) (name : String) : Bool :=
  inScopeUntil
    (fun element => endsScope element ||
      (element.vocabulary == .html && ["ol", "ul"].contains element.name))
    [name] tree.opened

/-- Whether an element with one of these names is in the scope that a table ends. -/
def inTableScope (tree : Tree) (names : List String) : Bool :=
  inScopeUntil
    (fun element => element.vocabulary == .html &&
      ["html", "table", "template"].contains element.name)
    names tree.opened

/-- Whether a selection is in the scope that ends at everything but options. -/
def inSelectScope (tree : Tree) : Bool :=
  inScopeUntil
    (fun element => !(element.vocabulary == .html &&
      ["optgroup", "option"].contains element.name))
    ["select"] tree.opened

def pop (tree : Tree) : Tree :=
  { tree with opened := tree.opened.drop 1 }

/-- Closes elements until the innermost is of HTML with one of these names. -/
def popToContext (tree : Tree) (names : List String) : Tree :=
  { tree with
    opened := tree.opened.dropWhile fun element =>
      !(element.vocabulary == .html && names.contains element.name) }

/-- Closes elements through the first of HTML with one of these names. -/
def popThrough (tree : Tree) (names : List String) : Tree :=
  (tree.popToContext names).pop

/-- The names of elements that may be left open. -/
def impliedEnds : List String :=
  ["dd", "dt", "li", "optgroup", "option", "p", "rb", "rp", "rt", "rtc"]

/-- Closes elements that may be left open, except those with a given name. -/
def closeImplied (tree : Tree) (exception : String) : Tree :=
  { tree with
    opened := tree.opened.dropWhile fun element =>
      element.vocabulary == .html && impliedEnds.contains element.name &&
        element.name != exception }

def closeParagraph (tree : Tree) : Tree :=
  if tree.inButtonScope "p" then tree.popThrough ["p"] else tree

/-- Puts an element behind the last descendant of its parent. -/
def placeInside (parent : OpenElement) (new : Placed) (placed : List Placed) :
    List Placed :=
  let before := placed.takeWhile (·.id != parent.id)
  match placed.drop before.length with
  | [] => placed ++ [new]
  | self :: after =>
    let inner := after.takeWhile fun other => parent.depth < other.depth
    before ++ self :: inner ++ new :: after.drop inner.length

def placeBefore (sibling : OpenElement) (new : Placed) (placed : List Placed) :
    List Placed :=
  let before := placed.takeWhile (·.id != sibling.id)
  before ++ new :: placed.drop before.length

def insert (tree : Tree) (tag : Tag) (vocabulary : Vocabulary) (holdsHtml : Bool) : Tree :=
  let id := tree.nextId
  let opened (depth : Nat) : List OpenElement :=
    { id, depth, name := tag.name, vocabulary, holdsHtml } :: tree.opened
  let tableNames := ["table", "tbody", "tfoot", "thead", "tr"]
  let outer := tree.opened.dropWhile fun element =>
    !(element.vocabulary == .html && ["table", "template"].contains element.name)
  match tree.opened with
  | [] => { tree with placed := tree.placed ++ [{ id, depth := 0, tag }], nextId := id + 1,
                      opened := opened 0 }
  | parent :: _ =>
    match tree.fosters && tree.currentIs tableNames, outer with
    | true, table :: _ =>
      if table.name == "table" then
        { tree with placed :=
                      placeBefore table { id, depth := table.depth, tag } tree.placed
                    nextId := id + 1
                    opened := opened table.depth }
      else
        let depth := table.depth + 1
        { tree with placed := placeInside table { id, depth, tag } tree.placed
                    nextId := id + 1
                    opened := opened depth }
    | _, _ =>
      let depth := parent.depth + 1
      { tree with placed := placeInside parent { id, depth, tag } tree.placed
                  nextId := id + 1
                  opened := opened depth }

/-- Inserts an element of HTML and leaves it open. -/
def openHtml (tree : Tree) (tag : Tag) : Tree :=
  tree.insert tag .html false

/-- Inserts an element of HTML that has no content. -/
def leaf (tree : Tree) (tag : Tag) : Tree :=
  (tree.openHtml tag).pop

/-- Inserts an element of HTML that the text leaves out. -/
def openImplied (tree : Tree) (name : String) : Tree :=
  tree.openHtml { name, attributes := [], selfClosing := false }

def addAttributes (tree : Tree) (element : OpenElement) (tag : Tag) : Tree :=
  { tree with
    placed := tree.placed.map fun placed =>
      if placed.id == element.id then
        let known := placed.tag.attributes
        let new := tag.attributes.filter fun added => (known.lookup added.1).isNone
        { placed with tag := { placed.tag with attributes := known ++ new } }
      else placed }

def remove (tree : Tree) (element : OpenElement) : Tree :=
  let before := tree.placed.takeWhile (·.id != element.id)
  let after := (tree.placed.drop (before.length + 1)).dropWhile fun other =>
    element.depth < other.depth
  { tree with placed := before ++ after }

/-- The mode that the open elements call for. -/
def modeOf (templateModes : List Mode) (headSeen : Bool) : List OpenElement → Mode
  | [] => .inBody
  | element :: outer =>
    if element.vocabulary != .html then modeOf templateModes headSeen outer
    else
      match element.name with
      | "select" =>
        let rest := outer.takeWhile (·.name != "template")
        if rest.any (·.name == "table") then .inSelectInTable else .inSelect
      | "td" | "th" => if outer.isEmpty then .inBody else .inCell
      | "tr" => .inRow
      | "tbody" | "thead" | "tfoot" => .inTableBody
      | "caption" => .inCaption
      | "colgroup" => .inColumnGroup
      | "table" => .inTable
      | "template" => templateModes.headD .inBody
      | "head" => if outer.isEmpty then .inBody else .inHead
      | "body" => .inBody
      | "frameset" => .inFrameset
      | "html" => if headSeen then .afterHead else .beforeHead
      | _ => modeOf templateModes headSeen outer

/-- Sets the mode that the open elements call for. -/
def resetMode (tree : Tree) : Tree :=
  { tree with mode := modeOf tree.templateModes tree.head.isSome tree.opened }

end Tree

end DocContract.Html
