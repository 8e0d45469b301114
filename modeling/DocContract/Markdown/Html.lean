import DocContract.Text.Blank
import DocContract.Markdown.Line

/-!
# Markup blocks

How a block of raw markup begins, after its opening angle bracket.  Some begin with a tag
or mark that decides how they end; others begin with the name of a block element, or with a
complete tag alone on its line, and end at a blank line.
-/

namespace DocContract.Markdown

/-- Whether a text starts with a word of ASCII letters in any case. -/
def startsWithIgnoringCase (word : String) (cs : List Char) : Bool :=
  let front := cs.take word.length
  front.map Char.toLower == word.toList.map Char.toLower

/-- The text that ends a block opened by a tag with raw content, a comment, an instruction,
a declaration or a section of character data. -/
def rawEnd? (cs : List Char) : Option String :=
  let opened := [("pre", "</pre>"), ("style", "</style>"), ("script", "</script>"),
    ("textarea", "</textarea>")].find? fun (name, _) =>
      startsWithIgnoringCase name cs &&
        match cs.drop name.length with
        | [] => true
        | c :: _ => isAsciiSpace c || c == '>'
  match opened with
  | some (_, ending) => some ending
  | none =>
    if Text.startsWith cs "!--".toList then some "-->"
    else if Text.startsWith cs "?".toList then some "?>"
    else if Text.startsWith cs "![CDATA[".toList then some "]]>"
    else
      match cs with
      | '!' :: c :: _ => if isAsciiLetter c then some ">" else none
      | _ => none

/-- The names of elements that make a block of their own. -/
def blockElements : List String :=
  ["address", "article", "aside", "base", "basefont", "blockquote", "body", "caption",
   "center", "col", "colgroup", "dd", "details", "dialog", "dir", "div", "dl", "dt",
   "fieldset", "figcaption", "figure", "footer", "form", "frame", "frameset", "h1", "h2",
   "h3", "h4", "h5", "h6", "head", "header", "hr", "html", "iframe", "legend", "li",
   "link", "main", "menu", "menuitem", "nav", "noframes", "ol", "optgroup", "option", "p",
   "param", "search", "section", "summary", "table", "tbody", "td", "tfoot", "th",
   "thead", "title", "tr", "track", "ul"]

def startsBlockElement (cs : List Char) : Bool :=
  let tail := match cs with
    | '/' :: rest => rest
    | _ => cs
  let name := tail.takeWhile fun c => isAsciiLetter c || isAsciiDigit c
  blockElements.contains (String.ofList (name.map Char.toLower)) &&
    match tail.drop name.length with
    | [] => true
    | '/' :: '>' :: _ => true
    | c :: _ => c == ' ' || c == '\t' || c == '\r' || c == '\n' || c == '>'

/-- What follows the value of an attribute; the value must end on its line. -/
def afterAttributeValue? (cs : List Char) : Option (List Char) :=
  match cs with
  | [] => none
  | c :: rest =>
    if c == '"' || c == '\'' then
      match rest.dropWhile fun d => d != c && d != '\n' && d != '\r' with
      | d :: rest => if d = c then some rest else none
      | [] => none
    else
      let isPlain (d : Char) : Bool := !" =><\x60\n\r\"'".toList.contains d
      if isPlain c then some (cs.dropWhile isPlain) else none

/-- What follows an attribute, with its value if it has one. -/
def afterAttribute? (cs : List Char) : Option (List Char) :=
  match cs with
  | [] => none
  | c :: rest =>
    if isAsciiLetter c || c == '_' || c == ':' then
      let rest := rest.dropWhile fun d =>
        isAsciiLetter d || isAsciiDigit d || d == '_' || d == '.' || d == ':' || d == '-'
      match rest.dropWhile isInlineSpace with
      | '=' :: value => afterAttributeValue? (value.dropWhile isInlineSpace)
      | _ => some rest
    else none

/-- What follows the attributes of a tag: white space before each is required. -/
def afterAttributes? : Nat → List Char → Option (List Char)
  | 0, _ => none
  | fuel + 1, cs =>
    let spaced := cs.dropWhile isInlineSpace
    match spaced with
    | [] => none
    | c :: _ =>
      if c == '\n' || c == '\r' then none
      else if c == '/' || c == '>' then some spaced
      else if spaced.length == cs.length then none
      else do afterAttributes? fuel (← afterAttribute? spaced)

/-- What follows a complete tag on one line, after its opening angle bracket. -/
def afterTag? (cs : List Char) : Option (List Char) := do
  let (closing, tail) := match cs with
    | '/' :: rest => (true, rest)
    | _ => (false, cs)
  let letters := countWhile isAsciiLetter tail
  guard (letters != 0)
  let rest := (tail.drop letters).dropWhile fun c =>
    isAsciiLetter c || isAsciiDigit c || c == '-'
  let rest ← if closing then some rest else afterAttributes? (rest.length + 1) rest
  let rest := rest.dropWhile isInlineSpace
  let rest := match closing, rest with
    | false, '/' :: rest => rest
    | _, rest => rest
  match rest with
  | '>' :: rest => some rest
  | _ => none

/-- Whether a complete tag stands alone on its line. -/
def isLoneTag (cs : List Char) : Bool :=
  match afterTag? cs with
  | some rest => (blankLine? rest).isSome
  | none => false

end DocContract.Markdown
