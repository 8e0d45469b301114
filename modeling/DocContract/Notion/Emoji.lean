import DocContract.Conversion

/-!
# Icons and the emoji object

The icon of a page or database is an emoji or a file.  Both declare the union that they
share.  An emoji is a record with a constant in its type.
-/

namespace DocContract.Notion

/-- The open union of all icons. -/
def icon : SymbolRef :=
  { name := "Icon", scope := .shared }

def addIcon : BuildStep :=
  .addOpenUnion icon.name "type"

namespace Emoji

def url : String :=
  "/reference/emoji-object"

def recordedPage : Page where
  title := "Emoji"
  body := String.join
    (["An emoji object contains information about an emoji character. It is most often " ++
       "used to represent an emoji that is rendered as a page icon in the Notion UI.",
      "",
      "| Property | Type | Description | Example value |",
      "|---|---|---|---|",
      "| `type` | `\"emoji\"` | The constant string `\"emoji\"` that represents the " ++
       "object type. | `\"emoji\"` |",
      "| `emoji` | `string` | The emoji character. | `\"😻\"` |",
      "",
      "```json",
      "\x7b\"type\": \"emoji\", \"emoji\": \"😻\"\x7d",
      "```"].map (· ++ "\n"))
  endpoint := none

def emoji : SymbolRef :=
  { name := "Emoji", scope := .shared }

def introduction : Block :=
  { kind := .paragraph
    text :=
      "An emoji object contains information about an emoji character. It is most often " ++
      "used to represent an emoji that is rendered as a page icon in the Notion UI." }

def typeRow : Parameter :=
  { property := "`type`"
    type := "`\"emoji\"`"
    description := "The constant string `\"emoji\"` that represents the object type."
    exampleValue := "`\"emoji\"`" }

def emojiRow : Parameter :=
  { property := "`emoji`"
    type := "`string`"
    description := "The emoji character."
    exampleValue := "`\"😻\"`" }

def sample : Block :=
  { kind := .fencedCode
    text := "\x7b\"type\": \"emoji\", \"emoji\": \"😻\"\x7d" }

def script : List ScriptStep :=
  [.block introduction
     [.addSharedRecord emoji.name introduction.text, addIcon,
      .registerMember icon emoji none],
   .parameter typeRow [.addLiteralField emoji typeRow],
   .parameter emojiRow [.addField emoji emojiRow .string []],
   .block sample
     [addIcon, .addUnmarshalCheck emoji sample.text none,
      .addUnmarshalCheck icon sample.text none]]

def conversion : Conversion :=
  { name := "emoji", url, needs := [], script }

end Emoji

end DocContract.Notion
