import DocContract.Text.Blank
import DocContract.Text.Letter
import DocContract.Json.Record
import DocContract.Json.Writer

/-!
# Elements of a documentation page

A page is a flat sequence of elements: blocks of text with a kind, and parameters, which
are rows of a table.  Two elements are equal when all their texts are; inline markup in a
cell is part of it.
-/

namespace DocContract

/-- What sort of text a block holds. -/
inductive BlockKind where
  | paragraph
  /-- A section heading of any level. -/
  | heading
  /-- A quotation or a callout. -/
  | blockquote
  /-- A code sample. -/
  | fencedCode
  /-- A bulleted or numbered list. -/
  | list
deriving DecidableEq, Repr

namespace BlockKind

/-- The kinds with the names they are known by. -/
def names : List (String × BlockKind) :=
  [("paragraph", .paragraph), ("heading", .heading), ("blockquote", .blockquote),
   ("fenced-code", .fencedCode), ("list", .list)]

def name : BlockKind → String
  | .paragraph => "paragraph"
  | .heading => "heading"
  | .blockquote => "blockquote"
  | .fencedCode => "fenced-code"
  | .list => "list"

def ofName? (name : String) : Option BlockKind :=
  names.lookup name

end BlockKind

/-- A text with its kind. -/
structure Block where
  kind : BlockKind
  text : String
deriving DecidableEq, Repr

/-- A row of a parameter table, cells as they are written. -/
structure Parameter where
  property : String
  type : String
  description : String
  exampleValue : String
deriving DecidableEq, Repr

/-- A text without blanks at its ends, the backticks around it and the blanks inside
those. -/
def stripCodeSpan (text : String) : String :=
  let isTick (c : Char) : Bool := c == '\x60'
  let inner := Text.dropEndWhile isTick ((Text.trim text.toList).dropWhile isTick)
  String.ofList (Text.trim inner)

/-- The name of the field that a parameter describes. -/
def Parameter.fieldName (parameter : Parameter) : String :=
  stripCodeSpan parameter.property

/-- What a page consists of. -/
inductive Element where
  | block (block : Block)
  | parameter (parameter : Parameter)
deriving DecidableEq, Repr

namespace Element

def block? : Element → Option Block
  | .block b => some b
  | .parameter _ => none

def parameter? : Element → Option Parameter
  | .block _ => none
  | .parameter p => some p

/-- An element as it is shown in messages. -/
def display : Element → String
  | .block b => b.kind.name ++ " " ++ Text.quoted b.text
  | .parameter p =>
    "parameter \x7b property: " ++ Text.quoted p.property ++ ", type: " ++
      Text.quoted p.type ++
      ", description: " ++ Text.quoted p.description ++ ", example: " ++
      Text.quoted p.exampleValue ++ " \x7d"

end Element

structure Block.Draft where
  kind : Option BlockKind := none
  text : Option String := none

def Block.reader : Json.Reader Block :=
  Json.record (σ := Draft)
    [.ofField "kind" Draft.kind (fun d kind => { d with kind := some kind })
       (Json.choiceBeside Json.unitOrEmpty BlockKind.names),
     .ofField "text" Draft.text (fun d text => { d with text := some text }) Json.text]
    {}
    fun draft => do return { kind := ← draft.kind, text := ← draft.text }

structure Parameter.Draft where
  property : Option String := none
  type : Option String := none
  description : Option String := none
  exampleValue : Option String := none

def Parameter.reader : Json.Reader Parameter :=
  Json.record (σ := Draft)
    [.ofField "property" Draft.property (fun d t => { d with property := some t })
       Json.text,
     .ofField "type" Draft.type (fun d t => { d with type := some t }) Json.text,
     .ofField "description" Draft.description (fun d t => { d with description := some t })
       Json.text,
     .ofField "example_value" Draft.exampleValue
       (fun d t => { d with exampleValue := some t }) Json.text]
    {}
    fun draft => do
      return { property := ← draft.property
               type := ← draft.type
               description := ← draft.description
               exampleValue := ← draft.exampleValue }

/-- Reads a tag and answers with the reader of the element it announces. -/
def Element.tagReader : Json.Reader (Json.Reader Element) := fun cs => do
  let (tag, rest) ← Json.text cs
  match tag with
  | "block" =>
    return (fun cs => do
      let (b, rest) ← Block.reader cs
      return (.block b, rest), rest)
  | "parameter" =>
    return (fun cs => do
      let (p, rest) ← Parameter.reader cs
      return (.parameter p, rest), rest)
  | _ => throw .mismatched

/-- The written form of a value, which is stepped past. -/
def Element.written : Json.Reader (List Char) := fun cs => do
  let ((), rest) ← Json.skip cs
  return (cs.take (cs.length - rest.length), rest)

/-- Reads an element.  The member `element` of an object says which sort it is, and the
other members are those of the block or parameter; in an array the tag comes first. -/
def Element.reader : Json.Reader Element := fun cs =>
  match Json.skipBlank cs with
  | '\x7b' :: _ => do
    let (members, rest) ← Json.object Element.written cs
    let some (_, tag) :=
      members.find? (fun member => member.1 == "element") | throw .mismatched
    let others := members.filter (fun member => member.1 != "element")
    let (reader, _) ← Element.tagReader tag
    let fields := others.map fun (name, value) =>
      Json.writeText name.toList ++ ':' :: value
    let (element, _) ← reader ('\x7b' :: Text.joinWith [','] fields ++ ['\x7d'])
    return (element, rest)
  | '[' :: rest => do
    match ← Json.nextElement? true rest with
    | none => throw .mismatched
    | some cs =>
      let (reader, rest) ← Element.tagReader cs
      match Json.skipBlank rest with
      | ',' :: rest => reader ('[' :: rest)
      | _ => throw .mismatched
  | cs => .error (Json.mismatch cs)

def Block.members (block : Block) : List (String × Json.Value) :=
  [("kind", .text block.kind.name), ("text", .text block.text)]

def Parameter.members (parameter : Parameter) : List (String × Json.Value) :=
  [("property", .text parameter.property), ("type", .text parameter.type),
   ("description", .text parameter.description),
   ("example_value", .text parameter.exampleValue)]

/-- An element as a JSON object with its tag. -/
def Element.toJson : Element → Json.Value
  | .block b => .object (("element", .text "block") :: b.members)
  | .parameter p => .object (("element", .text "parameter") :: p.members)

end DocContract
