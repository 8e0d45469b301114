import DocContract.Html.Reference

/-!
# Tokens of HTML

Tags, and what stands between them.  What a text between tags says does not matter here,
only whether it is blank.  Names are in small letters; of two attributes with one name the
first counts.
-/

namespace DocContract.Html

/-- A tag that opens an element. -/
structure Tag where
  name : String
  attributes : List (List Char × List Char)
  /-- A slash stands at the end of the tag. -/
  selfClosing : Bool
deriving DecidableEq, Repr

def Tag.value? (tag : Tag) (name : String) : Option (List Char) :=
  tag.attributes.lookup name.toList

inductive Token where
  | start (tag : Tag)
  | stop (name : String)
  | text (blank : Bool)
  | doctype
  | comment
deriving DecidableEq, Repr

def isSpace (c : Char) : Bool :=
  c == '\t' || c == '\n' || c == '\x0c' || c == '\r' || c == ' '

/-- A character of a name: in small letters, and never the null character. -/
def nameChar (c : Char) : Char :=
  if c == '\x00' then '\uFFFD' else c.toLower

/-- The name of an attribute and the rest; an equals sign at the start belongs to the
name. -/
def attributeName (cs : List Char) : List Char × List Char :=
  let ends (c : Char) : Bool := isSpace c || c == '/' || c == '>' || c == '='
  match cs with
  | '=' :: rest =>
      ('=' :: (rest.takeWhile (!ends ·)).map nameChar, rest.dropWhile (!ends ·))
  | _ => ((cs.takeWhile (!ends ·)).map nameChar, cs.dropWhile (!ends ·))

/-- The value of an attribute after its equals sign, and the rest; nothing if the text ends
in it. -/
def attributeValue? (cs : List Char) : Option (List Char × List Char) :=
  let cs := cs.dropWhile isSpace
  match cs with
  | '"' :: rest => (Text.splitAt? '"' rest).map fun (raw, rest) => (decodeValue raw, rest)
  | '\'' :: rest =>
      (Text.splitAt? '\'' rest).map fun (raw, rest) => (decodeValue raw, rest)
  | '>' :: _ => some ([], cs)
  | _ =>
    let ends (c : Char) : Bool := isSpace c || c == '>'
    some (decodeValue (cs.takeWhile (!ends ·)), cs.dropWhile (!ends ·))

/-- The attributes of a tag, whether a slash ends it, and what follows it; nothing if the
text ends in the tag.  Every attribute takes a character, so the length of the text bounds
their number. -/
def tagRest? : Nat → List (List Char × List Char) → List Char →
    Option (List (List Char × List Char) × Bool × List Char)
  | 0, _, _ => none
  | fuel + 1, attributes, cs =>
    match cs.dropWhile isSpace with
    | [] => none
    | '>' :: rest => some (attributes.reverse, false, rest)
    | '/' :: '>' :: rest => some (attributes.reverse, true, rest)
    | '/' :: rest => tagRest? fuel attributes rest
    | cs =>
      let (name, rest) := attributeName cs
      let known := (attributes.lookup name).isSome
      match rest.dropWhile isSpace with
      | '=' :: rest =>
        match attributeValue? rest with
        | none => none
        | some (value, rest) =>
          tagRest? fuel (if known then attributes else (name, value) :: attributes) rest
      | rest => tagRest? fuel (if known then attributes else (name, []) :: attributes) rest

/-- Reads a tag after its opening angle bracket or slash. -/
def tag? (cs : List Char) : Option (Tag × List Char) := do
  let ends (c : Char) : Bool := isSpace c || c == '/' || c == '>'
  let name := String.ofList ((cs.takeWhile (!ends ·)).map nameChar)
  let rest := cs.dropWhile (!ends ·)
  let (attributes, selfClosing, rest) ← tagRest? (rest.length + 1) [] rest
  return ({ name, attributes, selfClosing }, rest)

/-- What follows a comment after its opening mark. -/
def afterComment (cs : List Char) : List Char :=
  match cs with
  | '>' :: rest => rest
  | '-' :: '>' :: rest => rest
  | _ => close cs
where
  /-- Looks for the closing mark. -/
  close : List Char → List Char
    | [] => []
    | '-' :: '-' :: '>' :: rest => rest
    | '-' :: '-' :: '!' :: '>' :: rest => rest
    | _ :: rest => close rest

/-- What follows the next closing angle bracket. -/
def afterBracket (cs : List Char) : List Char :=
  (cs.dropWhile (· != '>')).drop 1

/-- What follows a section of character data. -/
def afterCharacterData : List Char → List Char
  | [] => []
  | ']' :: ']' :: '>' :: rest => rest
  | _ :: rest => afterCharacterData rest

/-- Reads what begins with an exclamation mark after an angle bracket.  Character data is
allowed in elements that are not of HTML. -/
def markedDeclaration (foreign : Bool) (cs : List Char) : Token × List Char :=
  match cs with
  | '-' :: '-' :: rest => (.comment, afterComment rest)
  | _ =>
    if (cs.take 7).map Char.toLower == "doctype".toList then (.doctype, afterBracket cs)
    else if foreign && Text.startsWith cs "[CDATA[".toList then
      (.text false, afterCharacterData (cs.drop 7))
    else (.comment, afterBracket cs)

/-- Reads a token; nothing if the text ends, or ends in a tag. -/
def token? (foreign : Bool) (cs : List Char) : Option (Token × List Char) :=
  match cs with
  | [] => none
  | '<' :: '!' :: rest => some (markedDeclaration foreign rest)
  | '<' :: '?' :: rest => some (.comment, afterBracket rest)
  | '<' :: '/' :: '>' :: rest => some (.comment, rest)
  | '<' :: '/' :: c :: rest =>
    if c.isAlpha then (tag? (c :: rest)).map fun (tag, rest) => (.stop tag.name, rest)
    else some (.comment, afterBracket (c :: rest))
  | '<' :: c :: rest =>
    if c.isAlpha then (tag? (c :: rest)).map fun (tag, rest) => (.start tag, rest)
    else some (.text false, c :: rest)
  | _ :: rest =>
    let text := cs.take 1 ++ rest.takeWhile (· != '<')
    some (.text (text.all isSpace), rest.dropWhile (· != '<'))

/-- Whether a name in any case starts here, with the end of a tag name after it. -/
def startsTagName (name : String) (cs : List Char) : Bool :=
  (cs.take name.length).map Char.toLower == name.toList &&
    match cs.drop name.length with
    | c :: _ => isSpace c || c == '/' || c == '>'
    | [] => false

/-- What follows the closing tag of an element whose content is raw text. -/
def afterRawText (name : String) : List Char → List Char
  | [] => []
  | '<' :: '/' :: rest =>
    if startsTagName name rest then ((tag? rest).map (·.2)).getD []
    else afterRawText name rest
  | _ :: rest => afterRawText name rest

/-- How far the text of a script has got into a comment that can hide a closing tag. -/
inductive ScriptState where
  | plain
  /-- Inside a comment. -/
  | escaped
  /-- Inside a script inside a comment. -/
  | nested
deriving DecidableEq, Repr

/-- What follows the closing tag of a script. -/
def afterScript : ScriptState → List Char → List Char
  | _, [] => []
  | .plain, '<' :: '!' :: '-' :: '-' :: rest =>
    match rest with
    | '>' :: rest => afterScript .plain rest
    | '-' :: '>' :: rest => afterScript .plain rest
    | rest => afterScript .escaped rest
  | .escaped, '-' :: '-' :: '>' :: rest => afterScript .plain rest
  | .nested, '-' :: '-' :: '>' :: rest => afterScript .plain rest
  | .nested, '<' :: '/' :: rest =>
    afterScript (if startsTagName "script" rest then .escaped else .nested) rest
  | state, '<' :: '/' :: rest =>
    if startsTagName "script" rest then ((tag? rest).map (·.2)).getD []
    else afterScript state rest
  | .escaped, '<' :: rest =>
    afterScript (if startsTagName "script" rest then .nested else .escaped) rest
  | state, _ :: rest => afterScript state rest

end DocContract.Html
