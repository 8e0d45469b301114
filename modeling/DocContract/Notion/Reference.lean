import DocContract.Notion.File
import DocContract.Notion.User

/-!
# The API reference of Notion

The endpoint that retrieves a user has a record for the parameters in its path, and answers
with a user.  It is the last of the documents that are known; all have their pages as they
were when the scripts were recorded.
-/

namespace DocContract.Notion

namespace RetrieveUser

def url : String :=
  "/reference/get-user"

def endpoint : Endpoint where
  method := .get
  url := "/v1/users/\x7buser_id\x7d"
  parameters :=
    [{ name := "user_id"
       location := .path
       type := "string"
       required := true
       description := "Identifier for a Notion user"
       sample := "" }]

def recordedPage : Page where
  title := "Retrieve a user"
  body := String.join
    (["Retrieves a User using the ID specified.",
      "",
      "[block:callout]",
      "\x7b\"title\": \"Errors\", \"body\": \"Returns a 404 HTTP response if the user " ++
       "doesn't exist, or if the integration doesn't have access to the user.\"\x7d",
      "[/block]"].map (· ++ "\n"))
  endpoint := some endpoint

/-- The record of the parameters in the path. -/
def parameters : SymbolRef :=
  { name := "RetrieveUserParams", scope := .document }

def row (parameter : EndpointParameter) : Parameter where
  property := parameter.name
  type := parameter.type
  description := parameter.description
  exampleValue := parameter.sample

/-- When there is no user. -/
def errors : Block :=
  { kind := .blockquote
    text := "Errors\nReturns a 404 HTTP response if the user doesn't exist, or if the " ++
      "integration doesn't have access to the user." }

/-- An answer, to which the page only links. -/
def answer : String :=
  "\x7b\"object\": \"user\", \"id\": \"9a3b5ae0-c6e6-482d-b0e1-ed315ee6dc57\", " ++
    "\"type\": \"bot\", \"bot\": \x7b\x7d\x7d"

def script : List ScriptStep :=
  [.endpoint endpoint
     (.addRecord parameters.name ("Path parameters of `" ++ endpoint.title ++ "`.") ::
       endpoint.parameters.map fun parameter =>
         .addField parameters (row parameter) .string []),
   .seen { kind := .paragraph, text := "Retrieves a User using the ID specified." },
   .seen errors,
   .undocumented [.addUnmarshalCheck { name := "User", scope := .shared } answer none]]

/-- The endpoint, whose answer decodes as a user. -/
def conversion : Conversion :=
  { name := "retrieve_user", url, needs := ["user"], script }

end RetrieveUser

/-- The URL that those of the documents are relative to. -/
def baseUrl : String :=
  "https://developers.notion.com"

def conversions : List Conversion :=
  [User.conversion, Emoji.conversion, File.conversion, RetrieveUser.conversion]

def recordedPages : List (String × Page) :=
  [(User.url, User.recordedPage), (Emoji.url, Emoji.recordedPage),
   (File.url, File.recordedPage), (RetrieveUser.url, RetrieveUser.recordedPage)]

/-- Fetches recorded pages, each in the attribute with the given name. -/
def recordedFetcher (payloadAttribute : String) : Fetcher :=
  fetchFrom (recordedPages.map fun (url, page) => (url, page.toHtml payloadAttribute))

end DocContract.Notion
