import DocContract.Endpoint
import DocContract.GrammarError
import DocContract.Html.Tree

/-!
# Pages

A page travels inside an HTML document, as JSON in an attribute of some element.
`Page.ofHtml` takes the first element in tree order that has the attribute; `Page.toHtml`
writes a small document with one such element.
-/

namespace DocContract

structure Page where
  title : String
  body : String
  /-- The endpoint that a reference page describes. -/
  endpoint : Option Endpoint
deriving DecidableEq, Repr

/-- The attribute that holds a page unless another is named. -/
def defaultPayloadAttribute : String :=
  "data-initial-props"

namespace Page

structure Draft where
  title : Option String := none
  body : Option String := none
  endpoint : Option (Option Endpoint) := none

/-- Reads a page; title and endpoint may be left out. -/
def reader : Json.Reader Page :=
  Json.record (σ := Draft)
    [.ofField "title" Draft.title (fun d t => { d with title := some t }) Json.text,
     .ofField "body" Draft.body (fun d t => { d with body := some t }) Json.text,
     .ofField "api" Draft.endpoint (fun d e => { d with endpoint := some e })
       (Json.optional Endpoint.reader)]
    {}
    fun draft => do
      return { title := draft.title.getD ""
               body := ← draft.body
               endpoint := draft.endpoint.getD none }

structure PayloadDraft where
  doc : Option Page := none

/-- Reads the payload of an HTML document. -/
def payloadReader : Json.Reader Page :=
  Json.record (σ := PayloadDraft)
    [.ofField "doc" PayloadDraft.doc (fun d page => { d with doc := some page }) reader]
    {} PayloadDraft.doc

def toJson (page : Page) : Json.Value :=
  .object
    ([("title", .text page.title), ("body", .text page.body)] ++
      (page.endpoint.map fun endpoint => ("api", endpoint.toJson)).toList)

/-- A page as the payload of an HTML document. -/
def payload (page : Page) : List Char :=
  (Json.Value.object [("doc", page.toJson)]).compact

/-- A character that may begin a name in a selector. -/
def beginsSelectorName (c : Char) : Bool :=
  c.isAlpha || c == '_' || 0x80 ≤ c.toNat

/-- Whether a text is a name by which elements can be selected. -/
def isSelectorName (cs : List Char) : Bool :=
  cs.all (fun c => beginsSelectorName c || c == '-' || c.isDigit) &&
    match cs with
    | [] => false
    | '-' :: '-' :: _ => true
    | '-' :: c :: _ => beginsSelectorName c
    | c :: _ => beginsSelectorName c

/-- The value of an attribute at the first element that has it. -/
def attributeIn? (name : List Char) (html : List Char) : Option (List Char) :=
  if isSelectorName name then
    (Html.elements html).findSome? fun tag => tag.attributes.lookup name
  else none

/-- The page in an HTML document. -/
def ofHtml (html name : String) : Except GrammarError Page :=
  match attributeIn? name.toList html.toList with
  | none => .error (.missingPayload name)
  | some payload =>
    match Json.readAll payloadReader payload with
    | .ok page => .ok page
    | .error fault => .error (.malformedPayload fault)

def escapeHtmlChar (c : Char) : List Char :=
  match c with
  | '&' => "&amp;".toList
  | '"' => "&quot;".toList
  | '<' => "&lt;".toList
  | '>' => "&gt;".toList
  | c => [c]

def escapeHtml (text : List Char) : List Char :=
  text.flatMap escapeHtmlChar

/-- An HTML document with the page in an attribute. -/
def toHtml (page : Page) (name : String) : String :=
  String.ofList
    ("<!DOCTYPE html>\n<html><head><title>".toList ++ escapeHtml page.title.toList ++
      "</title></head><body><div id=\"ssr-props\" ".toList ++ name.toList ++
        "=\"".toList ++
      escapeHtml page.payload ++ "\"></div></body></html>\n".toList)

end Page

end DocContract
