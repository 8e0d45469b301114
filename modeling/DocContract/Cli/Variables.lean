import DocContract.Text.Letter
import DocContract.Text.Blank

/-!
# Files of variables

A file of variables has one assignment a line.  The value may be quoted, in which case it
may go over several lines, and refer to other variables by a dollar sign.  Reading stops at
the first line that is no assignment; what was read before counts.  A variable that is set
already stays as it is.
-/

namespace DocContract.Cli

/-- The variables of a command with their values. -/
abbrev Variables := List (String × String)

/-- What the end of a line leaves open. -/
inductive OpenState where
  | complete
  /-- After a blank, where a comment may begin. -/
  | gap
  | escape
  | quotes
  | quotesEscape
  | apostrophes
  | apostrophesEscape
deriving DecidableEq, Repr

/-- What is open after one more character; a comment begins where the answer is `none`. -/
def OpenState.next (state : OpenState) (c : Char) : Option OpenState :=
  match state with
  | complete =>
    if c = '\\' then some escape
    else if c = '"' then some quotes
    else if c = '\'' then some apostrophes
    else if Text.isBlank c && c != '\n' && c != '\r' then some gap
    else some complete
  | gap =>
    if c = '#' then none
    else if c = '\\' then some escape
    else if c = '"' then some quotes
    else if c = '\'' then some apostrophes
    else some complete
  | escape => some complete
  | quotes =>
    if c = '\\' then some quotesEscape else if c = '"' then some complete else some quotes
  | quotesEscape => some quotes
  | apostrophes =>
    if c = '\\' then some apostrophesEscape
    else if c = '\'' then some complete
    else some apostrophes
  | apostrophesEscape => some apostrophes

/-- What a line has up to a comment, and what it leaves open; `none` is a comment. -/
def scanLine (state : OpenState) : List Char → List Char × Option OpenState
  | [] => ([], some state)
  | c :: cs =>
    match state.next c with
    | none => ([], none)
    | some state =>
      let (text, last) := scanLine state cs
      (c :: text, last)

/-- The logical lines of a file up to the first that is never closed. -/
def logicalLines (before : List Char) (state : OpenState) :
    List (List Char) → List (List Char)
  | [] => []
  | line :: lines =>
    let all := before ++ line
    if (Text.trimStart all).head? = some '#' then [] :: logicalLines [] .complete lines
    else
      match scanLine state line with
      | (text, none) => (before ++ text) :: logicalLines [] .complete lines
      | (_, some .complete) => Text.withoutLineEnd all :: logicalLines [] .complete lines
      | (_, some state) => logicalLines all state lines

/-- Where in a value a character stands. -/
inductive ValuePhase where
  | text
  | escape
  | apostrophes
  /-- In a name after a dollar sign. -/
  | name (name : List Char)
  /-- In a name in braces. -/
  | braced (name : List Char)
  /-- Behind the value, where only a comment may follow. -/
  | ended
deriving DecidableEq, Repr

/-- A value that is being read; the last character and the last of a name come first. -/
structure ValueReader where
  phase : ValuePhase := .text
  /-- Inside double quotes. -/
  inQuotes : Bool := false
  written : List Char := []

namespace ValueReader

/-- Appends the value of a variable, if it has one. -/
def substitute (reader : ValueReader) (lookup : String → Option String)
    (name : List Char) :
    ValueReader :=
  let value := (lookup (String.ofList name.reverse)).getD ""
  { reader with phase := .text, written := value.toList.reverse ++ reader.written }

def push (reader : ValueReader) (c : Char) : ValueReader :=
  { reader with phase := .text, written := c :: reader.written }

def textChar (reader : ValueReader) (c : Char) : ValueReader :=
  if c = '$' then { reader with phase := .name [] }
  else if c = '\\' then { reader with phase := .escape }
  else if c = '"' then { reader with inQuotes := !reader.inQuotes }
  else if reader.inQuotes then reader.push c
  else if c = '\'' then { reader with phase := .apostrophes }
  else if c = ' ' || c = '\t' then { reader with phase := .ended }
  else reader.push c

def escapedChar (reader : ValueReader) (c : Char) : Option ValueReader :=
  if c = 'n' then some (reader.push '\n')
  else if ['\\', '\'', '"', '$', ' '].contains c then some (reader.push c)
  else none

/-- Reads a character behind a name, which ends the name. -/
def behindName (reader : ValueReader) (lookup : String → Option String) (name : List Char)
    (c : Char) : ValueReader :=
  if c = '\x7b' && name.isEmpty then { reader with phase := .braced [] }
  else
    let reader := reader.substitute lookup name
    if c = '$' then { reader with phase := .name [] } else reader.push c

def read (lookup : String → Option String) (reader : ValueReader) :
    List Char → Option String
  | [] =>
    match reader.phase with
    | .apostrophes | .braced _ => none
    | .name name =>
      if reader.inQuotes then none
      else some (String.ofList (reader.substitute lookup name).written.reverse)
    | _ => if reader.inQuotes then none else some (String.ofList reader.written.reverse)
  | c :: cs =>
    match reader.phase with
    | .ended =>
      if c = ' ' || c = '\t' then reader.read lookup cs
      else if c = '#' then some (String.ofList reader.written.reverse)
      else none
    | .escape =>
      match reader.escapedChar c with
      | some reader => reader.read lookup cs
      | none => none
    | .apostrophes =>
      if c = '\'' then { reader with phase := .text }.read lookup cs
      else { reader with written := c :: reader.written }.read lookup cs
    | .name name =>
      if Text.isAlphanumeric c then
        { reader with phase := .name (c :: name) }.read lookup cs
      else (reader.behindName lookup name c).read lookup cs
    | .braced name =>
      if Text.isAlphanumeric c || c != '\x7d' then
        { reader with phase := .braced (c :: name) }.read lookup cs
      else (reader.substitute lookup name).read lookup cs
    | .text => (reader.textChar c).read lookup cs

end ValueReader

def beginsVariable (c : Char) : Bool :=
  c.isAlpha || c == '_'

def isVariableChar (c : Char) : Bool :=
  c.isAlphanum || c == '_' || c == '.'

/-- The name of a variable, and what follows it and the blanks behind it. -/
def variableName? (cs : List Char) : Option (String × List Char) :=
  match cs with
  | [] => none
  | c :: _ =>
    if beginsVariable c then
      some (String.ofList (cs.takeWhile isVariableChar),
        Text.trimStart (cs.dropWhile isVariableChar))
    else none

/-- The name that a line assigns to, and what follows the equals sign; the word `export`
may stand in front of the name. -/
def assigned? (cs : List Char) : Option (String × List Char) :=
  match variableName? cs with
  | none => none
  | some (name, '=' :: value) => some (name, value)
  | some (name, rest) =>
    if name = "export" then
      match variableName? rest with
      | some (name, '=' :: value) => some (name, value)
      | _ => none
    else none

/-- Whether a line has neither an assignment nor a value. -/
def isVoid (cs : List Char) : Bool :=
  cs.isEmpty || cs.head? == some '#'

/-- The assignment on a line, if it is not void; `none` is a line that cannot be read. -/
def assignment? (lookup : String → Option String) (line : List Char) :
    Option (Option (String × String)) :=
  let line := Text.trim line
  if isVoid line then some none
  else
    match assigned? line with
    | none => none
    | some (name, value) =>
      let value := Text.trimStart value
      if isVoid value then some (some (name, ""))
      else (ValueReader.read lookup {} value).map fun value => some (name, value)

def assignLines (environment : Variables) : List (List Char) → Variables
  | [] => environment
  | line :: lines =>
    match assignment? (fun name => environment.lookup name) line with
    | none => environment
    | some none => assignLines environment lines
    | some (some (name, value)) =>
      if (environment.lookup name).isSome then assignLines environment lines
      else assignLines (environment ++ [(name, value)]) lines

def Variables.withFile (environment : Variables) (file : String) : Variables :=
  let text := match file.toList with
    | '\uFEFF' :: rest => rest
    | text => text
  assignLines environment (logicalLines [] .complete (Text.splitLines text))

end DocContract.Cli
