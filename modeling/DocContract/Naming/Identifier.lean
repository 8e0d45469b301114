import DocContract.Naming.Words
import DocContract.Text.Blank

/-!
# Identifiers of the generated code

Names are rewritten with a capital for each word where a type is named, and in small
letters with underscores between the words where a field, a module or a test is.  The
result must be an ASCII identifier; a keyword of the generated language is allowed for a
field in its raw form only, and some words not at all.
-/

namespace DocContract.Naming

/-- A word in small letters with a capital at its start. -/
def capitalized (word : List Char) : List Char :=
  match Text.lowercase word with
  | [] => []
  | c :: cs => Text.upperForm c ++ cs

/-- A name with a capital for each word. -/
def pascalCase (name : List Char) : List Char :=
  (words .unicode name).flatMap capitalized

/-- A name in small letters, with underscores between the words. -/
def snakeCase (name : List Char) : List Char :=
  Text.joinWith ['_'] ((words .unicode name).map Text.lowercase)

/-- The keywords of the generated language. -/
def keywords : List String :=
  ["as", "async", "await", "break", "const", "continue", "crate", "dyn", "else", "enum",
   "extern", "false", "fn", "for", "gen", "if", "impl", "in", "let", "loop", "match",
   "mod", "move", "mut", "pub", "ref", "return", "static", "struct", "trait", "true",
   "type", "unsafe", "use", "where", "while", "abstract", "become", "box", "do", "final",
   "macro", "override", "priv", "try", "typeof", "unsized", "virtual", "yield"]

def isKeyword (name : List Char) : Bool :=
  keywords.contains (String.ofList name)

/-- The names that are no identifiers even in raw form. -/
def reservedNames : List String :=
  ["self", "Self", "super", "crate", "_"]

def isReserved (name : List Char) : Bool :=
  reservedNames.contains (String.ofList name)

def beginsIdentifier (c : Char) : Bool :=
  c.isAlpha || c == '_'

def isIdentifierChar (c : Char) : Bool :=
  c.isAlphanum || c == '_'

/-- Whether a text is an ASCII identifier. -/
def isIdentifier : List Char → Bool
  | [] => false
  | c :: cs => beginsIdentifier c && cs.all isIdentifierChar

structure Ident where
  text : List Char
  /-- It is a keyword and written in raw form. -/
  raw : Bool
deriving DecidableEq, Repr

def Ident.written (ident : Ident) : List Char :=
  if ident.raw then 'r' :: '#' :: ident.text else ident.text

def typeIdent? (name : List Char) : Option Ident :=
  let text := pascalCase name
  if isIdentifier text && !isKeyword text && !isReserved text then
    some { text, raw := false }
  else none

/-- The identifier of the field, module or test with a given name. -/
def fieldIdent? (name : List Char) : Option Ident :=
  let text := snakeCase name
  if isIdentifier text && !isReserved text then some { text, raw := isKeyword text }
  else none

end DocContract.Naming
