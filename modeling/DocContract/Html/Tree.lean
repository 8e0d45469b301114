import DocContract.Html.Stack

/-!
# The tree of a document

How tokens become elements.  What a token means depends on the mode; a mode may also do a
part of the work and leave the token to the mode after it.  Only what decides which
elements there are, and in which order they stand in the tree, is kept track of.
-/

namespace DocContract.Html

/-- The text that follows a tag. -/
inductive Content where
  | markup
  /-- Text up to the closing tag with a name. -/
  | raw (name : String)
  | script
  /-- Text up to the end of the document. -/
  | plain
deriving DecidableEq, Repr

/-- What a mode makes of a token. -/
inductive Outcome where
  | done (tree : Tree) (content : Content)
  /-- The token is left to the mode of the tree. -/
  | again (tree : Tree)

namespace Tree

/-- A token that is dealt with. -/
def finish (tree : Tree) : Outcome :=
  .done tree .markup

/-- A token that is left to another mode. -/
def leave (tree : Tree) (mode : Mode) : Outcome :=
  .again { tree with mode }

def mergeRoot (tree : Tree) (tag : Tag) : Tree :=
  match tree.opened.getLast? with
  | some root => if tree.hasOpen "template" then tree else tree.addAttributes root tag
  | none => tree

def endTemplate (tree : Tree) : Tree :=
  if tree.hasOpen "template" then
    let tree := tree.popThrough ["template"]
    resetMode { tree with templateModes := tree.templateModes.drop 1 }
  else tree

def headNames : List String :=
  ["base", "basefont", "bgsound", "link", "meta", "noframes", "script", "style",
   "template", "title"]

def startInHead (tree : Tree) (tag : Tag) : Outcome :=
  match tag.name with
  | "title" | "noscript" | "noframes" | "style" => .done (tree.leaf tag) (.raw tag.name)
  | "script" => .done (tree.leaf tag) .script
  | "template" =>
    finish { tree.openHtml tag with
             framesetAllowed := false
             mode := .inTemplate
             templateModes := .inTemplate :: tree.templateModes }
  | _ => finish (tree.leaf tag)

def beforeHead (tree : Tree) (token : Token) : Outcome :=
  let implied := { tree.openImplied "head" with mode := .inHead }
  let implied := { implied with head := implied.opened.head? }
  match token with
  | .text true | .comment | .doctype => finish tree
  | .start tag =>
    match tag.name with
    | "html" => finish (tree.mergeRoot tag)
    | "head" =>
      let tree := { tree.openHtml tag with mode := .inHead }
      finish { tree with head := tree.opened.head? }
    | _ => .again implied
  | .stop name =>
      if ["head", "body", "html", "br"].contains name then .again implied else finish tree
  | .text false => .again implied

def inHead (tree : Tree) (token : Token) : Outcome :=
  match token with
  | .text true | .comment | .doctype => finish tree
  | .start tag =>
    if headNames.contains tag.name || tag.name == "noscript" then tree.startInHead tag
    else
      match tag.name with
      | "html" => finish (tree.mergeRoot tag)
      | "head" => finish tree
      | _ => tree.pop.leave .afterHead
  | .stop name =>
    match name with
    | "head" => finish { tree.pop with mode := .afterHead }
    | "template" => finish tree.endTemplate
    | "body" | "html" | "br" => tree.pop.leave .afterHead
    | _ => finish tree
  | .text false => tree.pop.leave .afterHead

def afterHead (tree : Tree) (token : Token) : Outcome :=
  let implied := { tree.openImplied "body" with mode := .inBody }
  match token with
  | .text true | .comment | .doctype => finish tree
  | .start tag =>
    match tag.name with
    | "html" => finish (tree.mergeRoot tag)
    | "body" => finish { tree.openHtml tag with mode := .inBody, framesetAllowed := false }
    | "frameset" => finish { tree.openHtml tag with mode := .inFrameset }
    | "head" => finish tree
    | _ =>
      if headNames.contains tag.name then
        match tree.head with
        | none => finish tree
        | some head =>
          let without (opened : List OpenElement) := opened.filter fun e => e.id != head.id
          match { tree with opened := head :: tree.opened }.startInHead tag with
          | .done tree content => .done { tree with opened := without tree.opened } content
          | .again tree => .again { tree with opened := without tree.opened }
      else .again implied
  | .stop name =>
    match name with
    | "template" => finish tree.endTemplate
    | "body" | "html" | "br" => .again implied
    | _ => finish tree
  | .text false => .again implied

/-- The names of elements with a role in the structure of a document. -/
def specialNames : List String :=
  ["address", "applet", "area", "article", "aside", "base", "basefont", "bgsound",
   "blockquote", "body", "br", "button", "caption", "center", "col", "colgroup", "dd",
   "details", "dir", "div", "dl", "dt", "embed", "fieldset", "figcaption", "figure",
   "footer", "form", "frame", "frameset", "h1", "h2", "h3", "h4", "h5", "h6", "head",
   "header", "hgroup", "hr", "html", "iframe", "img", "input", "isindex", "li", "link",
   "listing", "main", "marquee", "menu", "meta", "nav", "noembed", "noframes", "noscript",
   "object", "ol", "p", "param", "plaintext", "pre", "script", "section", "select",
   "source", "style", "summary", "table", "tbody", "td", "template", "textarea", "tfoot",
   "th", "thead", "title", "tr", "track", "ul", "wbr", "xmp"]

def isSpecial (element : OpenElement) : Bool :=
  match element.vocabulary with
  | .html => specialNames.contains element.name
  | _ => element.holdsHtml

def headingNames : List String :=
  ["h1", "h2", "h3", "h4", "h5", "h6"]

/-- The names of blocks that end a paragraph. -/
def blockNames : List String :=
  ["address", "article", "aside", "blockquote", "center", "details", "dialog", "dir",
   "div", "dl", "fieldset", "figcaption", "figure", "footer", "header", "hgroup", "main",
   "nav", "ol", "p", "section", "summary", "ul", "menu"]

/-- The names of elements that change how text looks. -/
def formattingNames : List String :=
  ["a", "b", "big", "code", "em", "font", "i", "nobr", "s", "small", "strike", "strong",
   "tt", "u"]

def closeItems (names : List String) (opened : List OpenElement) : Option String :=
  match opened with
  | [] => none
  | element :: outer =>
    if element.vocabulary == .html && names.contains element.name then some element.name
    else if isSpecial element && !(["address", "div", "p"].contains element.name) then none
    else closeItems names outer

def startItem (tree : Tree) (names : List String) (tag : Tag) : Outcome :=
  let tree := { tree with framesetAllowed := false }
  let tree := match closeItems names tree.opened with
    | some name => (tree.closeImplied name).popThrough [name]
    | none => tree
  finish (tree.closeParagraph.openHtml tag)

/-- Closes through an element that no special element separates from the innermost. -/
def endOther (tree : Tree) (name : String) : Tree :=
  go tree.opened
where
  /-- Looks for the element from the inside out. -/
  go : List OpenElement → Tree
    | [] => tree
    | element :: outer =>
      if element.vocabulary == .html && element.name == name then
        { tree with opened := outer }
      else if isSpecial element then tree
      else go outer

/-- Ends an element that changes how text looks: alone if blocks inside it stay open. -/
def endFormatting (tree : Tree) (name : String) : Tree :=
  let inner := tree.opened.takeWhile fun element =>
    !(element.vocabulary == .html && element.name == name)
  if !tree.inScope [name] then tree
  else
    let kept := inner.reverse.dropWhile fun element => !isSpecial element
    { tree with opened := kept.reverse ++ tree.opened.drop (inner.length + 1) }

/-- The body, if it is the second of the open elements. -/
def body? (tree : Tree) : Option OpenElement :=
  match tree.opened.reverse with
  | _ :: body :: _ => if body.name == "body" then some body else none
  | _ => none

/-- A tag in the body. -/
def startInBody (tree : Tree) (tag : Tag) : Outcome :=
  let plain := { tree with framesetAllowed := false }
  let name := tag.name
  if headNames.contains name then tree.startInHead tag
  else if blockNames.contains name then finish (tree.closeParagraph.openHtml tag)
  else if headingNames.contains name then
    let tree := tree.closeParagraph
    finish ((if tree.currentIs headingNames then tree.pop else tree).openHtml tag)
  else if formattingNames.contains name then
    let tree :=
      if (name == "a" || name == "nobr") && tree.hasOpen name then tree.endFormatting name
      else tree
    finish (tree.openHtml tag)
  else
    match name with
    | "html" => finish (tree.mergeRoot tag)
    | "body" =>
      match tree.body? with
      | some body =>
        finish (if tree.hasOpen "template" then tree else plain.addAttributes body tag)
      | none => finish tree
    | "frameset" =>
      match tree.body? with
      | some body =>
        if tree.framesetAllowed then
          let rest := tree.remove body
          let root := { rest with opened := (rest.opened.getLast?).toList }
          finish { root.openHtml tag with mode := .inFrameset }
        else finish tree
      | none => finish tree
    | "pre" | "listing" => finish (plain.closeParagraph.openHtml tag)
    | "form" =>
      let free := tree.hasOpen "template"
      if tree.form.isSome && !free then finish tree
      else
        let tree := tree.closeParagraph.openHtml tag
        finish
          (if free then tree else { tree with form := (tree.opened.head?).map (·.id) })
    | "li" => tree.startItem ["li"] tag
    | "dd" | "dt" => tree.startItem ["dd", "dt"] tag
    | "plaintext" => .done (tree.closeParagraph.openHtml tag) .plain
    | "button" =>
      let tree :=
        if tree.inScope ["button"] then (tree.closeImplied "").popThrough ["button"]
        else tree
      finish { tree.openHtml tag with framesetAllowed := false }
    | "applet" | "marquee" | "object" => finish (plain.openHtml tag)
    | "table" => finish { plain.closeParagraph.openHtml tag with mode := .inTable }
    | "area" | "br" | "embed" | "img" | "keygen" | "wbr" => finish (plain.leaf tag)
    | "image" => finish (plain.leaf { tag with name := "img" })
    | "input" =>
      let hidden := (tag.value? "type").any fun value =>
        value.map Char.toLower == "hidden".toList
      finish ((if hidden then tree else plain).leaf tag)
    | "param" | "source" | "track" => finish (tree.leaf tag)
    | "hr" => finish (plain.closeParagraph.leaf tag)
    | "textarea" => .done (plain.leaf tag) (.raw "textarea")
    | "xmp" => .done (plain.closeParagraph.leaf tag) (.raw "xmp")
    | "iframe" => .done (plain.leaf tag) (.raw "iframe")
    | "noembed" | "noscript" => .done (tree.leaf tag) (.raw name)
    | "select" =>
      let mode := match tree.mode with
        | .inTable | .inCaption | .inTableBody | .inRow | .inCell => Mode.inSelectInTable
        | _ => .inSelect
      finish { plain.openHtml tag with mode }
    | "optgroup" | "option" =>
      finish ((if tree.currentIs ["option"] then tree.pop else tree).openHtml tag)
    | "rb" | "rtc" =>
      finish ((if tree.inScope ["ruby"] then tree.closeImplied "" else tree).openHtml tag)
    | "rp" | "rt" =>
      finish
        ((if tree.inScope ["ruby"] then tree.closeImplied "rtc" else tree).openHtml tag)
    | "math" | "svg" =>
      let vocabulary := if name == "svg" then Vocabulary.svg else .mathml
      let tree := tree.insert tag vocabulary false
      finish (if tag.selfClosing then tree.pop else tree)
    | "caption" | "col" | "colgroup" | "frame" | "head" | "tbody" | "td" | "tfoot" | "th"
    | "thead" | "tr" => finish tree
    | _ => finish (tree.openHtml tag)

def stopInBody (tree : Tree) (name : String) : Outcome :=
  if formattingNames.contains name then
    finish (if tree.hasOpen name then tree.endFormatting name else tree.endOther name)
  else if headingNames.contains name then
    finish
      (if tree.inScope headingNames then (tree.closeImplied "").popThrough headingNames
       else tree)
  else
    match name with
    | "template" => finish tree.endTemplate
    | "body" =>
        finish (if tree.inScope ["body"] then { tree with mode := .afterBody } else tree)
    | "html" => if tree.inScope ["body"] then tree.leave .afterBody else finish tree
    | "form" =>
      if tree.hasOpen "template" then
        finish
          (if tree.inScope ["form"] then (tree.closeImplied "").popThrough ["form"]
           else tree)
      else
        let rest := tree.closeImplied ""
        finish
          (if tree.form.isSome && tree.inScope ["form"] then
            { rest with
              form := none
              opened := rest.opened.filter fun element => some element.id != tree.form }
          else { tree with form := none })
    | "p" =>
      finish
        ((if tree.inButtonScope "p" then tree else tree.openImplied "p").popThrough ["p"])
    | "li" =>
      finish
        (if tree.inListScope "li" then (tree.closeImplied "li").popThrough ["li"]
         else tree)
    | "dd" | "dt" =>
      finish
        (if tree.inScope [name] then (tree.closeImplied name).popThrough [name] else tree)
    | "br" =>
      finish ({ tree with framesetAllowed := false }.leaf
        { name := "br", attributes := [], selfClosing := false })
    | _ =>
      if blockNames.contains name ||
          ["button", "listing", "pre", "applet", "marquee", "object"].contains name then
        finish
          (if tree.inScope [name] then (tree.closeImplied "").popThrough [name] else tree)
      else finish (tree.endOther name)

def inBody (tree : Tree) (token : Token) : Outcome :=
  match token with
  | .start tag => tree.startInBody tag
  | .stop name => tree.stopInBody name
  | .text false => finish { tree with framesetAllowed := false }
  | .text true | .comment | .doctype => finish tree

/-! ## Tables -/

/-- Treats a token as in the body; what the table must not contain goes in front of it. -/
def inBodyFostered (tree : Tree) (token : Token) : Outcome :=
  match { tree with fosters := true }.inBody token with
  | .done tree content => .done { tree with fosters := false } content
  | .again tree => .again { tree with fosters := false }

/-- In a table, outside of its parts. -/
def inTable (tree : Tree) (token : Token) : Outcome :=
  let clear := tree.popToContext ["table", "template", "html"]
  let closed := (tree.popThrough ["table"]).resetMode
  match token with
  | .text _ | .comment | .doctype => finish tree
  | .start tag =>
    match tag.name with
    | "caption" => finish { clear.openHtml tag with mode := .inCaption }
    | "colgroup" => finish { clear.openHtml tag with mode := .inColumnGroup }
    | "col" => .again { clear.openImplied "colgroup" with mode := .inColumnGroup }
    | "tbody" | "tfoot" | "thead" =>
        finish { clear.openHtml tag with mode := .inTableBody }
    | "td" | "th" | "tr" => .again { clear.openImplied "tbody" with mode := .inTableBody }
    | "table" => if tree.inTableScope ["table"] then .again closed else finish tree
    | "style" | "script" | "template" => tree.startInHead tag
    | "input" =>
      let hidden := (tag.value? "type").any fun value =>
        value.map Char.toLower == "hidden".toList
      if hidden then finish (tree.leaf tag)
      else tree.inBodyFostered token
    | "form" =>
      if tree.form.isSome || tree.hasOpen "template" then finish tree
      else finish { tree.leaf tag with form := some tree.nextId }
    | _ => tree.inBodyFostered token
  | .stop name =>
    match name with
    | "table" => finish (if tree.inTableScope ["table"] then closed else tree)
    | "template" => finish tree.endTemplate
    | "body" | "caption" | "col" | "colgroup" | "html" | "tbody" | "td" | "tfoot" | "th"
    | "thead" | "tr" => finish tree
    | _ => tree.inBodyFostered token

def tablePartNames : List String :=
  ["caption", "col", "colgroup", "tbody", "td", "tfoot", "th", "thead", "tr"]

def inCaption (tree : Tree) (token : Token) : Outcome :=
  let closed := { (tree.closeImplied "").popThrough ["caption"] with mode := .inTable }
  let inScope := tree.inTableScope ["caption"]
  match token with
  | .start tag =>
    if tablePartNames.contains tag.name then if inScope then .again closed else finish tree
    else tree.inBody token
  | .stop name =>
    if name == "caption" then finish (if inScope then closed else tree)
    else if name == "table" then if inScope then .again closed else finish tree
    else if name == "body" || name == "html" || tablePartNames.contains name then
      finish tree
    else tree.inBody token
  | _ => tree.inBody token

def inColumnGroup (tree : Tree) (token : Token) : Outcome :=
  let closed := { tree.pop with mode := .inTable }
  let inGroup := tree.currentIs ["colgroup"]
  let otherwise : Outcome := if inGroup then .again closed else finish tree
  match token with
  | .text true | .comment | .doctype => finish tree
  | .text false => otherwise
  | .start tag =>
    match tag.name with
    | "html" => finish (tree.mergeRoot tag)
    | "col" => finish (tree.leaf tag)
    | "template" => tree.startInHead tag
    | _ => otherwise
  | .stop name =>
    match name with
    | "colgroup" => finish (if inGroup then closed else tree)
    | "col" => finish tree
    | "template" => finish tree.endTemplate
    | _ => otherwise

def rowGroupNames : List String :=
  ["tbody", "thead", "tfoot"]

def inTableBody (tree : Tree) (token : Token) : Outcome :=
  let clear := tree.popToContext ["tbody", "tfoot", "thead", "template", "html"]
  let closed := { clear.pop with mode := .inTable }
  let leaveGroup : Outcome :=
    if tree.inTableScope rowGroupNames then .again closed else finish tree
  match token with
  | .start tag =>
    match tag.name with
    | "tr" => finish { clear.openHtml tag with mode := .inRow }
    | "th" | "td" => .again { clear.openImplied "tr" with mode := .inRow }
    | "caption" | "col" | "colgroup" | "tbody" | "tfoot" | "thead" => leaveGroup
    | _ => tree.inTable token
  | .stop name =>
    match name with
    | "tbody" | "tfoot" | "thead" =>
        finish (if tree.inTableScope [name] then closed else tree)
    | "table" => leaveGroup
    | "body" | "caption" | "col" | "colgroup" | "html" | "td" | "th" | "tr" => finish tree
    | _ => tree.inTable token
  | _ => tree.inTable token

def inRow (tree : Tree) (token : Token) : Outcome :=
  let clear := tree.popToContext ["tr", "template", "html"]
  let closed := { clear.pop with mode := .inTableBody }
  let leaveRow : Outcome := if tree.inTableScope ["tr"] then .again closed else finish tree
  match token with
  | .start tag =>
    match tag.name with
    | "th" | "td" => finish { clear.openHtml tag with mode := .inCell }
    | "caption" | "col" | "colgroup" | "tbody" | "tfoot" | "thead" | "tr" => leaveRow
    | _ => tree.inTable token
  | .stop name =>
    match name with
    | "tr" => finish (if tree.inTableScope ["tr"] then closed else tree)
    | "table" => leaveRow
    | "tbody" | "tfoot" | "thead" =>
      if tree.inTableScope [name] then leaveRow else finish tree
    | "body" | "caption" | "col" | "colgroup" | "html" | "td" | "th" => finish tree
    | _ => tree.inTable token
  | _ => tree.inTable token

def inCell (tree : Tree) (token : Token) : Outcome :=
  let closed (names : List String) :=
    { (tree.closeImplied "").popThrough names with mode := .inRow }
  match token with
  | .start tag =>
    if tablePartNames.contains tag.name then
      if tree.inTableScope ["td", "th"] then .again (closed ["td", "th"]) else finish tree
    else tree.inBody token
  | .stop name =>
    match name with
    | "td" | "th" => finish (if tree.inTableScope [name] then closed [name] else tree)
    | "body" | "caption" | "col" | "colgroup" | "html" => finish tree
    | "table" | "tbody" | "tfoot" | "thead" | "tr" =>
      if tree.inTableScope [name] then .again (closed ["td", "th"]) else finish tree
    | _ => tree.inBody token
  | _ => tree.inBody token

def inSelect (tree : Tree) (token : Token) : Outcome :=
  let closed := (tree.popThrough ["select"]).resetMode
  let withoutOption := if tree.currentIs ["option"] then tree.pop else tree
  let withoutGroup := if withoutOption.currentIs ["optgroup"] then withoutOption.pop
    else withoutOption
  match token with
  | .start tag =>
    match tag.name with
    | "html" => finish (tree.mergeRoot tag)
    | "option" => finish (withoutOption.openHtml tag)
    | "optgroup" => finish (withoutGroup.openHtml tag)
    | "select" => finish (if tree.inSelectScope then closed else tree)
    | "input" | "keygen" | "textarea" =>
      if tree.inSelectScope then .again closed else finish tree
    | "script" | "template" => tree.startInHead tag
    | _ => finish tree
  | .stop name =>
    match name with
    | "optgroup" =>
      let inner := match tree.opened with
        | _ :: outer :: _ =>
            if tree.currentIs ["option"] && outer.name == "optgroup" then tree.pop
            else tree
        | _ => tree
      finish (if inner.currentIs ["optgroup"] then inner.pop else tree)
    | "option" => finish withoutOption
    | "select" => finish (if tree.inSelectScope then closed else tree)
    | "template" => finish tree.endTemplate
    | _ => finish tree
  | _ => finish tree

def inSelectInTable (tree : Tree) (token : Token) : Outcome :=
  let closed := (tree.popThrough ["select"]).resetMode
  let names := ["caption", "table", "tbody", "tfoot", "thead", "tr", "td", "th"]
  match token with
  | .start tag => if names.contains tag.name then .again closed else tree.inSelect token
  | .stop name =>
    if names.contains name then
      if tree.inTableScope [name] then .again closed else finish tree
    else tree.inSelect token
  | _ => tree.inSelect token

/-- In a template, whose first tag decides what it is a template of. -/
def inTemplate (tree : Tree) (token : Token) : Outcome :=
  let switch (mode : Mode) : Outcome :=
    .again { tree with mode, templateModes := mode :: tree.templateModes.drop 1 }
  match token with
  | .start tag =>
    if headNames.contains tag.name then tree.startInHead tag
    else
      match tag.name with
      | "caption" | "colgroup" | "tbody" | "tfoot" | "thead" => switch .inTable
      | "col" => switch .inColumnGroup
      | "tr" => switch .inTableBody
      | "td" | "th" => switch .inRow
      | _ => switch .inBody
  | .stop name => finish (if name == "template" then tree.endTemplate else tree)
  | _ => tree.inBody token

def inFrameset (tree : Tree) (token : Token) : Outcome :=
  match token with
  | .start tag =>
    match tag.name with
    | "html" => finish (tree.mergeRoot tag)
    | "frameset" => finish (tree.openHtml tag)
    | "frame" => finish (tree.leaf tag)
    | "noframes" => tree.startInHead tag
    | _ => finish tree
  | .stop "frameset" =>
    if tree.opened.length ≤ 1 then finish tree
    else
      let tree := tree.pop
      finish
        (if tree.currentIs ["frameset"] then tree
         else { tree with mode := .afterFrameset })
  | _ => finish tree

def afterContent (tree : Tree) (token : Token) : Outcome :=
  match tree.mode, token with
  | .afterFrameset, .start tag =>
    match tag.name with
    | "html" => finish (tree.mergeRoot tag)
    | "noframes" => tree.startInHead tag
    | _ => finish tree
  | .afterFrameset, _ => finish tree
  | .afterBody, .stop "html" => finish { tree with mode := .afterAfterBody }
  | _, .text true | _, .comment | _, .doctype => finish tree
  | _, .start tag =>
    if tag.name == "html" then finish (tree.mergeRoot tag) else tree.leave .inBody
  | _, _ => tree.leave .inBody

/-! ## Other vocabularies -/

/-- The tags of HTML that end an element of another vocabulary. -/
def breakoutNames : List String :=
  ["b", "big", "blockquote", "body", "br", "center", "code", "dd", "div", "dl", "dt",
   "em", "embed", "h1", "h2", "h3", "h4", "h5", "h6", "head", "hr", "i", "img", "li",
   "listing", "menu", "meta", "nobr", "ol", "p", "pre", "ruby", "s", "small", "span",
   "strong", "strike", "sub", "sup", "table", "tt", "u", "ul", "var"]

/-- Whether a token is one of another vocabulary than HTML. -/
def isForeign (tree : Tree) (token : Token) : Bool :=
  match tree.opened with
  | [] => false
  | element :: _ =>
    if element.vocabulary == .html then false
    else
      match token with
      | .start tag =>
        if element.holdsHtml then
          element.vocabulary == .mathml && element.name != "annotation-xml" &&
            (tag.name == "mglyph" || tag.name == "malignmark")
        else !(element.vocabulary == .mathml && element.name == "annotation-xml" &&
          tag.name == "svg")
      | .text _ => !element.holdsHtml
      | _ => true

/-- Whether an element of another vocabulary can hold HTML. -/
def canHoldHtml (vocabulary : Vocabulary) (tag : Tag) : Bool :=
  match vocabulary with
  | .html => false
  | .svg => ["foreignobject", "desc", "title"].contains tag.name
  | .mathml =>
    ["mi", "mo", "mn", "ms", "mtext"].contains tag.name ||
      (tag.name == "annotation-xml" &&
        (tag.value? "encoding").any fun value =>
          ["text/html".toList, "application/xhtml+xml".toList].contains
            (value.map Char.toLower))

def stopForeign (tree : Tree) (name : String) : Option Tree :=
  go tree.opened
where
  /-- Looks for the element from the inside out, as far as HTML. -/
  go : List OpenElement → Option Tree
    | [] => none
    | element :: outer =>
      if element.vocabulary == .html then none
      else if element.name == name then some { tree with opened := outer }
      else go outer

/-- What the mode makes of a token. -/
def dispatch (tree : Tree) (token : Token) : Outcome :=
  match tree.mode with
  | .initial =>
    match token with
    | .text true | .comment => finish tree
    | .doctype => finish { tree with mode := .beforeHtml }
    | _ => tree.leave .beforeHtml
  | .beforeHtml =>
    let implied := { tree.openImplied "html" with mode := .beforeHead }
    match token with
    | .text true | .comment | .doctype => finish tree
    | .start tag =>
      if tag.name == "html" then finish { tree.openHtml tag with mode := .beforeHead }
      else .again implied
    | .stop name =>
      if ["head", "body", "html", "br"].contains name then .again implied else finish tree
    | .text false => .again implied
  | .beforeHead => tree.beforeHead token
  | .inHead => tree.inHead token
  | .afterHead => tree.afterHead token
  | .inBody => tree.inBody token
  | .inTable => tree.inTable token
  | .inCaption => tree.inCaption token
  | .inColumnGroup => tree.inColumnGroup token
  | .inTableBody => tree.inTableBody token
  | .inRow => tree.inRow token
  | .inCell => tree.inCell token
  | .inSelect => tree.inSelect token
  | .inSelectInTable => tree.inSelectInTable token
  | .inTemplate => tree.inTemplate token
  | .inFrameset => tree.inFrameset token
  | .afterBody | .afterFrameset | .afterAfterBody => tree.afterContent token

/-- What a tree makes of a token. -/
def step (tree : Tree) (token : Token) : Outcome :=
  if tree.isForeign token then
    let vocabulary := ((tree.opened.head?).map (·.vocabulary)).getD .html
    match token with
    | .start tag =>
      let breaksOut := breakoutNames.contains tag.name ||
        (tag.name == "font" &&
          ["color", "face", "size"].any fun name => (tag.value? name).isSome)
      if breaksOut then
        .again { tree with
                 opened := tree.opened.dropWhile fun element =>
                   element.vocabulary != .html && !element.holdsHtml }
      else
        let tree := tree.insert tag vocabulary (canHoldHtml vocabulary tag)
        finish (if tag.selfClosing then tree.pop else tree)
    | .stop name =>
      match tree.stopForeign name with
      | some tree => finish tree
      | none => tree.dispatch token
    | _ => finish tree
  else tree.dispatch token

/-- Takes a token in, leaving it from mode to mode at most `fuel` times. -/
def take (token : Token) : Nat → Tree → Tree × Content
  | 0, tree => (tree, .markup)
  | fuel + 1, tree =>
    match tree.step token with
    | .done tree content => (tree, content)
    | .again tree => take token fuel tree

/-- What remains after the content of an element that holds no markup. -/
def afterContentOf (content : Content) (cs : List Char) : List Char :=
  match content with
  | .markup => cs
  | .raw name => afterRawText name cs
  | .script => afterScript .plain cs
  | .plain => []

/-- Reads a document to its end.  A token is left from mode to mode no more often than
there are modes and open elements. -/
def read (tree : Tree) (cs : List Char) : Tree :=
  let foreign := match tree.opened with
    | element :: _ => element.vocabulary != .html
    | [] => false
  match token? foreign cs with
  | none => tree
  | some (token, rest) =>
    let (tree, content) := tree.take token (tree.opened.length + 20)
    let rest := afterContentOf content rest
    if _h : rest.length < cs.length then read tree rest else tree
termination_by cs.length

end Tree

def normalizeLineEnds : List Char → List Char
  | [] => []
  | '\r' :: '\n' :: rest => '\n' :: normalizeLineEnds rest
  | '\r' :: rest => '\n' :: normalizeLineEnds rest
  | c :: rest => c :: normalizeLineEnds rest

def withoutOrderMark (cs : List Char) : List Char :=
  match cs with
  | '\uFEFF' :: rest => rest
  | _ => cs

/-- The tags of the elements of a document, in tree order. -/
def elements (text : List Char) : List Tag :=
  let tree : Tree := {}
  (tree.read (normalizeLineEnds (withoutOrderMark text))).placed.map (·.tag)

end DocContract.Html
