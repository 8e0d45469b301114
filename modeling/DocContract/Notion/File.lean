import DocContract.Notion.Emoji

/-!
# The file object

A file is hosted or external, which its type tells; each has a payload of its own.  A file
can be an icon.
-/

namespace DocContract.Notion.File

def url : String :=
  "/reference/file-object"

def recordedPage : Page where
  title := "File"
  body := String.join
    (["File objects contain data about a file that is uploaded to Notion, or data " ++
       "about an external file that is linked to in Notion.",
      "",
      "[block:parameters]",
      "\x7b\"data\": \x7b\"h-0\": \"Field\", \"h-1\": \"Type\", \"h-2\": " ++
       "\"Description\", \"h-3\": \"Example value\", \"0-0\": \"`type`\", \"0-1\": " ++
       "\"`string` (enum)\", \"0-2\": \"The type of the file object. Possible type " ++
       "values are: `\\\"external\\\"`, `\\\"file\\\"`.\", \"0-3\": " ++
       "\"`\\\"external\\\"`\", \"1-0\": \"`caption`\", \"1-1\": \"array of rich text " ++
       "objects\", \"1-2\": \"The caption for the file.\", \"1-3\": \"`[]`\"\x7d, " ++
       "\"cols\": 4, \"rows\": 2\x7d",
      "[/block]",
      "",
      "## Notion-hosted files",
      "",
      "| Property | Type | Description | Example value |",
      "|---|---|---|---|",
      "| `url` | `string` | An authenticated S3 URL to the file. The URL is valid for " ++
       "one hour. | " ++
       "`\"https://s3.us-west-2.amazonaws.com/secure.notion-static.com/9bc6c6e0.png\"` |",
      "| `expiry_time` | `string` (ISO 8601 date time) | The date and time when the " ++
       "link expires. | `\"2020-03-17T19:10:04.968Z\"` |",
      "",
      "## External files",
      "",
      "| Property | Type | Description | Example value |",
      "|---|---|---|---|",
      "| `url` | `string` | A link to the externally hosted content. | " ++
       "`\"https://website.domain/files/doc.txt\"` |",
      "",
      "[block:callout]",
      "\x7b\"title\": \"Icons\", \"body\": \"Page and database icons can be files as " ++
       "well as emoji.\"\x7d",
      "[/block]",
      "",
      "[block:image]",
      "\x7b\"images\": [\x7b\"image\": [\"https://files.readme.io/file-object.png\", " ++
       "\"file-object.png\", 1200, 600]\x7d]\x7d",
      "[/block]",
      "",
      "```json",
      "\x7b\"type\": \"external\", \"external\": \x7b\"url\": " ++
       "\"https://website.domain/files/doc.txt\"\x7d\x7d",
      "```"].map (· ++ "\n"))
  endpoint := none

/-- The closed union of all files. -/
def file : SymbolRef :=
  { name := "File", scope := .shared }

def hosted : SymbolRef :=
  { name := "NotionFile", scope := .document }

def external : SymbolRef :=
  { name := "ExternalFile", scope := .document }

/-- The steps that add a variant with its payload. -/
def variant (name : String) (payload : SymbolRef) (comment : String) : List BuildStep :=
  [.addRecord payload.name comment,
   .addField file
     { property := name, type := "object", description := comment, exampleValue := "" }
     (.named payload.name) [.typeSpecific, .discriminatorValue name]]

def introduction : Block :=
  { kind := .paragraph
    text :=
      "File objects contain data about a file that is uploaded to Notion, or data " ++
      "about an external file that is linked to in Notion." }

def typeRow : Parameter :=
  { property := "`type`"
    type := "`string` (enum)"
    description :=
      "The type of the file object. Possible type values are: `\"external\"`, " ++
      "`\"file\"`."
    exampleValue := "`\"external\"`" }

/-- The row of the caption, whose rich text stays raw JSON. -/
def captionRow : Parameter :=
  { property := "`caption`"
    type := "array of rich text objects"
    description := "The caption for the file."
    exampleValue := "`[]`" }

def hostedUrlRow : Parameter :=
  { property := "`url`"
    type := "`string`"
    description := "An authenticated S3 URL to the file. The URL is valid for one hour."
    exampleValue :=
      "`\"https://s3.us-west-2.amazonaws.com/secure.notion-static.com/9bc6c6e0.png\"`" }

def expiryRow : Parameter :=
  { property := "`expiry_time`"
    type := "`string` (ISO 8601 date time)"
    description := "The date and time when the link expires."
    exampleValue := "`\"2020-03-17T19:10:04.968Z\"`" }

def externalUrlRow : Parameter :=
  { property := "`url`"
    type := "`string`"
    description := "A link to the externally hosted content."
    exampleValue := "`\"https://website.domain/files/doc.txt\"`" }

/-- That files can be icons. -/
def icons : Block :=
  { kind := .blockquote
    text := "Icons\nPage and database icons can be files as well as emoji." }

def sample : Block :=
  { kind := .fencedCode
    text := "\x7b\"type\": \"external\", \"external\": \x7b\"url\": " ++
      "\"https://website.domain/files/doc.txt\"\x7d\x7d" }

def script : List ScriptStep :=
  [.block introduction [.addSharedClosedUnion file.name "type" introduction.text],
   .parameter typeRow [.addField file typeRow .string []],
   .parameter captionRow [.addField file captionRow (.list .any) [.omitEmpty]],
   .block { kind := .heading, text := "Notion-hosted files" }
     (variant "file" hosted "A file uploaded to Notion."),
   .parameter hostedUrlRow [.addField hosted hostedUrlRow .string []],
   .parameter expiryRow [.addField hosted expiryRow .timestamp []],
   .block { kind := .heading, text := "External files" }
     (variant "external" external "A file linked from elsewhere."),
   .parameter externalUrlRow [.addField external externalUrlRow .string []],
   .block icons [addIcon, .registerMember icon file none],
   .block sample [.addUnmarshalCheck file sample.text none]]

def conversion : Conversion :=
  { name := "file", url, needs := [], script }

end DocContract.Notion.File
