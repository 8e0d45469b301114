import DocContract.Code.Item
import DocContract.Code.Layout
import DocContract.Text.Blank
import DocContract.Text.Letter

/-!
# Printing items

The text of the generated code.  Each item is a list of lines; a line that is too long is
folded by its layout.
-/

namespace DocContract.Code

open DocContract.Naming (Ident)

def plain (text : String) : Line :=
  Line.of (.text text)

/-- Lines between an opening and a closing line. -/
def block (head : Layout) (body : List Line) (last : String) : List Line :=
  Line.of head :: indented body ++ [plain last]

def identLayout (ident : Ident) : Layout :=
  .text (String.ofList ident.written)

/-- A text as it is written in a string literal.  A NUL in front of an octal digit is
written in two digits, so that it does not run into the digit. -/
def escapeLiteral : List Char → List Char
  | [] => []
  | '\x00' :: c :: cs =>
    if '0' ≤ c ∧ c ≤ '7' then ['\\', 'x', '0', '0'] ++ escapeLiteral (c :: cs)
    else ['\\', '0'] ++ escapeLiteral (c :: cs)
  | c :: cs => Text.escapeQuoted c ++ escapeLiteral cs

def literal (text : String) : String :=
  String.ofList ('"' :: escapeLiteral text.toList ++ ['"'])

def ticked (name : String) : String :=
  "\x60" ++ name ++ "\x60"

/-- The lines of a comment that say which values lead where. -/
def Dispatch.text (dispatch : Dispatch) : String :=
  "Dispatches on " ++ ticked dispatch.key ++ ":" ++
    String.join (dispatch.entries.map fun (values, target) =>
      "\n- " ++ ", ".intercalate (values.map ticked) ++ ": " ++ ticked target)

/-- A comment with what it says of the discriminator, after an empty line. -/
def DocComment.fullText (doc : DocComment) : String :=
  match doc.dispatch with
  | none => doc.text
  | some dispatch => (if doc.text.isEmpty then "" else doc.text ++ "\n\n") ++ dispatch.text

def commentLines (comment : String) : List Line :=
  (Text.lines (Text.trim comment.toList)).map fun line =>
    match Text.trimEnd line with
    | [] => plain "///"
    | line => plain ("/// " ++ String.ofList line)

def DocComment.lines (doc : DocComment) : List Line :=
  commentLines doc.fullText

/-- A type applied to others. -/
def appliedLayout (name : Layout) (arguments : List Layout) : Layout :=
  name ++ .bracketed "<" ">" arguments

def TypeExpr.layout : TypeExpr → Layout
  | text => .text "String"
  | boolean => .text "bool"
  | integer => .text "i64"
  | number => .text "f64"
  | json => .text "serde_json::Value"
  | declared ident => identLayout ident
  | applied ident argument => appliedLayout (identLayout ident) [argument.layout]
  | sequence item => appliedLayout (.text "Vec") [item.layout]
  | map value =>
    appliedLayout (.text "std::collections::BTreeMap") [.text "String", value.layout]
  | parameter ident => identLayout ident

/-- A declared type with its argument, if it has one. -/
def memberLayout (member : Ident) (argument : Option Ident) : Layout :=
  match argument with
  | none => identLayout member
  | some argument => appliedLayout (identLayout member) [identLayout argument]

/-- The traits that a declaration derives from its fields. -/
def deriveLine : Line :=
  plain "#[derive(Debug, Clone, PartialEq, Serialize, Deserialize)]"

/-- The name of a field in the JSON, where it differs from the identifier. -/
def FieldDecl.rename? (field : FieldDecl) : Option String :=
  if String.ofList field.ident.text = field.name then none else some field.name

def renameLine (name : String) : Line :=
  Line.of
    (.text "#[serde(" ++
      .args
        (.opened ++ .text ("rename = " ++ literal name) ++
          .fold { outdent := indentStep }) ++
      .text ")]")

def FieldDecl.lines (field : FieldDecl) : List Line :=
  let type :=
    if field.optional then appliedLayout (.text "Option") [field.type.layout]
    else field.type.layout
  commentLines field.comment ++ (field.rename?.map renameLine).toList ++
    (if field.optional then
      [plain "#[serde(default, skip_serializing_if = \"Option::is_none\")]"]
    else []) ++
    [Line.of (.text "pub " ++ identLayout field.ident ++ .text ": " ++ type ++ .text ",")]

def parameterLayout : Option Ident → Layout
  | none => .text ""
  | some parameter => .bracketed "<" ">" [identLayout parameter]

def structLines (ident : Ident) (parameter : Option Ident) (fields : List FieldDecl) :
    List Line :=
  let head := .text "pub struct " ++ identLayout ident ++
    parameterLayout parameter ++ .text " \x7b"
  match fields with
  | [] => [Line.of (head ++ .seam ++ .text "\x7d")]
  | _ => block head (fields.flatMap FieldDecl.lines) "\x7d"

def Variant.line (variant : Variant) : Line :=
  Line.of
    (identLayout variant.ident ++
      .args
        (.text "(" ++ .opened ++ memberLayout variant.member variant.argument ++ .closed ++
          .text ")") ++
      .text ",")

def Arm.line (arm : Arm) : Line :=
  Line.of
    (.text (literal arm.value ++ " => ") ++
      .args
        (.fold { before := "\x7b" } ++ .text "Some" ++
          .bracketed "(" ")" [.text (literal arm.field)] ++
          .fold { flat := ",", after := "\x7d", outdent := indentStep }))

def lookupLines (ident : Ident) (key : Ident) (arms : List Arm) : List Line :=
  let head :=
    .text "match " ++
      .group 0
        (.args
          (.text "self" ++ .fold {} ++ .text "." ++ identLayout key ++ .fold {} ++
            .text ".as_str()") ++
          .fold { flat := " " }) ++
      .text "\x7b"
  block (.text "impl " ++ identLayout ident ++ .text " \x7b")
    (plain "/// Name of the payload field for the current discriminator value." ::
      block (.text "pub fn variant_field(&self) -> Option<&'static str> \x7b")
        (block head (arms.map Arm.line ++ [plain "_ => None,"]) "\x7d") "\x7d")
    "\x7d"

/-- The first line of the implementation of a trait. -/
def implementation (header ident : String) : Layout :=
  .group 0 (.text header ++ .fold { flat := " " } ++ .text ("for " ++ ident)) ++
    .text " \x7b"

/-- The lines of a type with one value. -/
def constantLines (ident value : String) : List Line :=
  [plain "#[derive(Debug, Clone, Copy, Default, PartialEq, Eq, Hash)]",
   plain ("pub struct " ++ ident ++ ";")] ++
  block (.text ("impl " ++ ident ++ " \x7b"))
    [plain ("pub const VALUE: &'static str = " ++ literal value ++ ";")] "\x7d" ++
  block (implementation "impl Serialize" ident)
    (block
      (.text
        ("fn serialize<S: serde::Serializer>(&self, serializer: S) -> " ++
          "Result<S::Ok, S::Error> \x7b"))
      [plain "serializer.serialize_str(Self::VALUE)"] "\x7d")
    "\x7d" ++
  block (implementation "impl<'de> Deserialize<'de>" ident)
    (plain "fn deserialize<D: serde::Deserializer<'de>>(" ::
      indented [plain "deserializer: D,"] ++
      block (.text ") -> Result<Self, D::Error> \x7b")
        (plain "let value = String::deserialize(deserializer)?;" ::
          block (.text "if value == Self::VALUE \x7b") [plain "Ok(Self)"]
            "\x7d else \x7b" ++
          indented
            (block (.text "Err(")
              (block (.text "serde::de::Error::custom(")
                [plain ("format!(\"expected \x7b:?\x7d, found \x7b:?\x7d\", " ++
                  "Self::VALUE, value),")]
                "),")
              ")") ++
          [plain "\x7d"])
        "\x7d")
    "\x7d"

def DecodeTest.lines (test : DecodeTest) : List Line :=
  let payloads := match test.payloads with
    | [] => .text "[]"
    | payloads => .bracketed "[" "]" (payloads.map fun payload => .text (literal payload))
  let decode :=
    .text "if let Err(err) = serde_json::from_str::" ++
      .bracketed "<" ">" [memberLayout test.target test.argument] ++
      .bracketed "(" ")" [.text "payload"] ++ .text " \x7b"
  plain "#[test]" ::
    block (.text "fn " ++ identLayout test.name ++ .text "() \x7b")
      (Line.of (.text "let payloads: &[&str] = &" ++ payloads ++ .text ";") ::
        block (.text "for payload in payloads \x7b")
          (block decode [plain "panic!(\"\x7b\x7d: \x7b\x7d\", payload, err);"] "\x7d")
          "\x7d")
      "\x7d"

def Item.lines : Item → List Line
  | struct doc ident parameter fields =>
    doc.lines ++ [deriveLine] ++ structLines ident parameter fields
  | lookup ident key arms => lookupLines ident key arms
  | enumeration doc ident variants =>
    doc.lines ++ [deriveLine, plain "#[serde(untagged)]"] ++
      block (.text "pub enum " ++ identLayout ident ++ .text " \x7b")
        (variants.map Variant.line) "\x7d"
  | wrapper doc ident =>
    doc.lines ++ [deriveLine, plain "#[serde(transparent)]",
      Line.of
        (.args
          (.text "pub struct " ++ identLayout ident ++ .text "(" ++ .opened ++
            .text "pub serde_json::Value" ++ .closed ++ .text ");"))]
  | constant ident value =>
    commentLines ("Always the string " ++ ticked ("\"" ++ value ++ "\"") ++ ".") ++
      constantLines (String.ofList ident.written) value
  | decodeTest test => test.lines
  | decodeTests tests =>
    plain "#[cfg(test)]" ::
      block (.text "mod unmarshal_checks \x7b")
        (plain "use super::*;" :: tests.flatMap DecodeTest.lines) "\x7d"

end DocContract.Code
