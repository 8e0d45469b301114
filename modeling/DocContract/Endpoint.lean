import DocContract.Json.Record
import DocContract.Json.Writer

/-!
# Endpoints

The endpoint that a reference page describes: a method, a URL template with placeholders in
braces, and parameters.  Every placeholder should be declared by a parameter that travels
in the path; `undeclared?` finds the first that is not.
-/

namespace DocContract

inductive Method where
  | get
  | post
  | put
  | patch
  | delete
  | head
  | options
deriving DecidableEq, Repr

namespace Method

/-- The methods with the names they have in a page. -/
def names : List (String × Method) :=
  [("get", .get), ("post", .post), ("put", .put), ("patch", .patch), ("delete", .delete),
   ("head", .head), ("options", .options)]

def name : Method → String
  | .get => "get"
  | .post => "post"
  | .put => "put"
  | .patch => "patch"
  | .delete => "delete"
  | .head => "head"
  | .options => "options"

/-- A method as it is shown, in capitals. -/
def display : Method → String
  | .get => "GET"
  | .post => "POST"
  | .put => "PUT"
  | .patch => "PATCH"
  | .delete => "DELETE"
  | .head => "HEAD"
  | .options => "OPTIONS"

/-- The method with a given name, in any ASCII case. -/
def ofName? (name : String) : Option Method :=
  names.lookup (name.map Char.toLower)

end Method

/-- Where a parameter of an endpoint travels. -/
inductive Location where
  | path
  | query
  | body
  | header
deriving DecidableEq, Repr

namespace Location

def names : List (String × Location) :=
  [("path", .path), ("query", .query), ("body", .body), ("header", .header)]

def name : Location → String
  | .path => "path"
  | .query => "query"
  | .body => "body"
  | .header => "header"

end Location

structure EndpointParameter where
  name : String
  location : Location
  type : String
  required : Bool
  description : String
  sample : String
deriving DecidableEq, Repr

/-- What a reference page documents. -/
structure Endpoint where
  method : Method
  url : String
  parameters : List EndpointParameter
deriving DecidableEq, Repr

/-- The placeholders of a URL template in order: the texts without braces between an
opening and a closing brace, the empty ones left out. -/
def placeholders (template : List Char) : List (List Char) :=
  go none template
where
  /-- `opened` holds what has been read since the last opening brace, the last character
  first. -/
  go (opened : Option (List Char)) : List Char → List (List Char)
    | [] => []
    | c :: rest =>
      if c = '\x7b' then go (some []) rest
      else if c = '\x7d' then
        match opened with
        | some (d :: name) => (d :: name).reverse :: go none rest
        | _ => go none rest
      else go (opened.map (c :: ·)) rest

namespace Endpoint

def pathParameters (endpoint : Endpoint) : List String :=
  (placeholders endpoint.url.toList).map String.ofList

/-- The first placeholder that no parameter in the path has as its name. -/
def undeclared? (endpoint : Endpoint) : Option String :=
  endpoint.pathParameters.find? fun name =>
    !endpoint.parameters.any fun p => p.location == .path && p.name == name

def title (endpoint : Endpoint) : String :=
  endpoint.method.display ++ " " ++ endpoint.url

end Endpoint

structure EndpointParameter.Draft where
  name : Option String := none
  location : Option Location := none
  type : Option String := none
  required : Option Bool := none
  description : Option String := none
  sample : Option String := none

/-- Reads a parameter of an endpoint; all but name and location may be left out. -/
def EndpointParameter.reader : Json.Reader EndpointParameter :=
  Json.record (σ := Draft)
    [.ofField "name" Draft.name (fun d t => { d with name := some t }) Json.text,
     .ofField "in" Draft.location (fun d l => { d with location := some l })
       (Json.choice Location.names),
     .ofField "type" Draft.type (fun d t => { d with type := some t }) Json.text,
     .ofField "required" Draft.required (fun d b => { d with required := some b })
       Json.flag,
     .ofField "desc" Draft.description (fun d t => { d with description := some t })
       Json.text,
     .ofField "example" Draft.sample (fun d t => { d with sample := some t }) Json.text]
    {}
    fun draft => do
      return { name := ← draft.name
               location := ← draft.location
               type := draft.type.getD ""
               required := draft.required.getD false
               description := draft.description.getD ""
               sample := draft.sample.getD "" }

structure Endpoint.Draft where
  method : Option Method := none
  url : Option String := none
  parameters : Option (List EndpointParameter) := none

/-- Reads an endpoint; the parameters may be left out. -/
def Endpoint.reader : Json.Reader Endpoint :=
  Json.record (σ := Draft)
    [.ofField "method" Draft.method (fun d m => { d with method := some m })
       (Json.choice Method.names),
     .ofField "url" Draft.url (fun d t => { d with url := some t }) Json.text,
     .ofField "params" Draft.parameters (fun d ps => { d with parameters := some ps })
       (Json.array EndpointParameter.reader)]
    {}
    fun draft => do
      return { method := ← draft.method
               url := ← draft.url
               parameters := draft.parameters.getD [] }

def EndpointParameter.toJson (p : EndpointParameter) : Json.Value :=
  .object
    [("name", .text p.name), ("in", .text p.location.name), ("type", .text p.type),
     ("required", .flag p.required), ("desc", .text p.description),
     ("example", .text p.sample)]

def Endpoint.toJson (endpoint : Endpoint) : Json.Value :=
  .object
    [("method", .text endpoint.method.name), ("url", .text endpoint.url),
     ("params", .array (endpoint.parameters.map EndpointParameter.toJson))]

end DocContract
