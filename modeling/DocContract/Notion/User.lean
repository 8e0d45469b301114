import DocContract.Conversion

/-!
# The user object

A user is a person or a bot, which its type tells; each has a payload of its own.
-/

namespace DocContract.Notion.User

def url : String :=
  "/reference/user"

def recordedPage : Page where
  title := "User"
  body := String.join
    (["The User object represents a user in a Notion workspace. Users include full " ++
       "workspace members, guests, and integrations.",
      "",
      "## All users",
      "",
      "| Property | Type | Description | Example value |",
      "|---|---|---|---|",
      "| `object` | `\"user\"` | Always `\"user\"` | `\"user\"` |",
      "| `id` | `string` (UUID) | Unique identifier for this user. | " ++
       "`\"e79a0b74-3aba-4149-9f74-0bb5791a6ee6\"` |",
      "| `type` | `string` (optional, enum) | Type of the user. Possible values are " ++
       "`\"person\"` and `\"bot\"`. | `\"person\"` |",
      "| `name` | `string` (optional) | User's name, as displayed in Notion. | " ++
       "`\"Avocado Lovelace\"` |",
      "| `avatar_url` | `string` (optional) | Chosen avatar image. | " ++
       "`\"https://secure.notion-static.com/e6a352a8.jpg\"` |",
      "",
      "## People",
      "",
      "User objects that represent people have the `type` property set to " ++
       "`\"person\"`. These objects also have the following properties:",
      "",
      "| Property | Type | Description | Example value |",
      "|---|---|---|---|",
      "| `person` | `object` | Properties only present for non-bot users. | " ++
       "`\x7b\"email\": \"avo@example.org\"\x7d` |",
      "| `person.email` | `string` | Email address of person. | `\"avo@example.org\"` |",
      "",
      "## Bots",
      "",
      "A user object's `type` property is `\"bot\"` when the user object represents a " ++
       "bot. A bot user object has the following properties:",
      "",
      "| Property | Type | Description | Example value |",
      "|---|---|---|---|",
      "| `bot` | `object` | Data about the bot, including its owner and workspace " ++
       "name. | `\x7b\x7d` |",
      "| `bot.workspace_name` | `string` (optional) | If the bot's owner is a " ++
       "workspace, the workspace name. | `\"Ada's Notion Workspace\"` |",
      "",
      "```json",
      "\x7b\"object\": \"user\", \"id\": \"e79a0b74-3aba-4149-9f74-0bb5791a6ee6\", " ++
       "\"type\": \"person\", \"name\": \"Avocado Lovelace\", \"avatar_url\": null, " ++
       "\"person\": \x7b\"email\": \"avo@example.org\"\x7d\x7d",
      "```"].map (· ++ "\n"))
  endpoint := none

def user : SymbolRef :=
  { name := "User", scope := .shared }

def person : SymbolRef :=
  { name := "Person", scope := .document }

def bot : SymbolRef :=
  { name := "Bot", scope := .document }

/-- A row that describes a field of a payload by a path, under the name of the field
alone. -/
def nested (row : Parameter) : Parameter :=
  let name := row.fieldName.toList.reverse.takeWhile (· != '.')
  { row with property := String.ofList name.reverse }

/-- The steps that add a variant with its payload. -/
def variant (name : String) (payload : SymbolRef) (row : Parameter) : List BuildStep :=
  [.addRecord payload.name (String.ofList (Text.trim row.description.toList)),
   .addField user row (.named payload.name) [.typeSpecific, .discriminatorValue name]]

def introduction : Block :=
  { kind := .paragraph
    text :=
      "The User object represents a user in a Notion workspace. Users include full " ++
      "workspace members, guests, and integrations." }

def objectRow : Parameter :=
  { property := "`object`"
    type := "`\"user\"`"
    description := "Always `\"user\"`"
    exampleValue := "`\"user\"`" }

def idRow : Parameter :=
  { property := "`id`"
    type := "`string` (UUID)"
    description := "Unique identifier for this user."
    exampleValue := "`\"e79a0b74-3aba-4149-9f74-0bb5791a6ee6\"`" }

/-- The row of the type, which only users leave out that are never decoded. -/
def typeRow : Parameter :=
  { property := "`type`"
    type := "`string` (optional, enum)"
    description := "Type of the user. Possible values are `\"person\"` and `\"bot\"`."
    exampleValue := "`\"person\"`" }

def nameRow : Parameter :=
  { property := "`name`"
    type := "`string` (optional)"
    description := "User's name, as displayed in Notion."
    exampleValue := "`\"Avocado Lovelace\"`" }

def avatarRow : Parameter :=
  { property := "`avatar_url`"
    type := "`string` (optional)"
    description := "Chosen avatar image."
    exampleValue := "`\"https://secure.notion-static.com/e6a352a8.jpg\"`" }

def personRow : Parameter :=
  { property := "`person`"
    type := "`object`"
    description := "Properties only present for non-bot users."
    exampleValue := "`\x7b\"email\": \"avo@example.org\"\x7d`" }

def emailRow : Parameter :=
  { property := "`person.email`"
    type := "`string`"
    description := "Email address of person."
    exampleValue := "`\"avo@example.org\"`" }

def botRow : Parameter :=
  { property := "`bot`"
    type := "`object`"
    description := "Data about the bot, including its owner and workspace name."
    exampleValue := "`\x7b\x7d`" }

def workspaceNameRow : Parameter :=
  { property := "`bot.workspace_name`"
    type := "`string` (optional)"
    description := "If the bot's owner is a workspace, the workspace name."
    exampleValue := "`\"Ada's Notion Workspace\"`" }

/-- The identifier of the workspace of a bot, which the page does not list. -/
def workspaceIdRow : Parameter :=
  { property := "workspace_id"
    type := "string"
    description := "Workspace the bot belongs to."
    exampleValue := "" }

def people : Block :=
  { kind := .paragraph
    text :=
      "User objects that represent people have the `type` property set to " ++
      "`\"person\"`. These objects also have the following properties:" }

def bots : Block :=
  { kind := .paragraph
    text :=
      "A user object's `type` property is `\"bot\"` when the user object represents a " ++
      "bot. A bot user object has the following properties:" }

def sample : Block :=
  { kind := .fencedCode
    text :=
      "\x7b\"object\": \"user\", \"id\": \"e79a0b74-3aba-4149-9f74-0bb5791a6ee6\", " ++
      "\"type\": \"person\", \"name\": \"Avocado Lovelace\", \"avatar_url\": null, " ++
      "\"person\": \x7b\"email\": \"avo@example.org\"\x7d\x7d" }

def script : List ScriptStep :=
  [.block introduction [.addSharedClosedUnion user.name "type" introduction.text],
   .seen { kind := .heading, text := "All users" },
   .parameter objectRow [.addLiteralField user objectRow],
   .parameter idRow [.addField user idRow .string []],
   .parameter typeRow [.addField user typeRow .string []],
   .parameter nameRow [.addField user nameRow .string [.optional]],
   .parameter avatarRow [.addField user avatarRow .string [.optional]],
   .seen { kind := .heading, text := "People" },
   .seen people,
   .parameter personRow (variant "person" person personRow),
   .parameter emailRow [.addField person (nested emailRow) .string []],
   .seen { kind := .heading, text := "Bots" },
   .seen bots,
   .parameter botRow (variant "bot" bot botRow),
   .parameter workspaceNameRow
     [.addField bot (nested workspaceNameRow) .string [.optional]],
   .undocumented [.addField bot workspaceIdRow .string [.optional]],
   .block sample [.addUnmarshalCheck user sample.text none]]

def conversion : Conversion :=
  { name := "user", url, needs := [], script }

end DocContract.Notion.User
