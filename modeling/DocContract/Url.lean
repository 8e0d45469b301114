import DocContract.Text.Blank

/-!
# URLs of pages

The URL of a document may be relative to a base.  Absolute URLs, which begin with a scheme
of the web in small letters, stay as they are.  A page can be requested from a URL that has
a scheme of the web and a host.
-/

namespace DocContract

/-- The URL of a document, under a base if it is relative. -/
def resolveUrl (base : Option String) (url : String) : String :=
  if url.startsWith "http://" || url.startsWith "https://" then url
  else
    match base with
    | none => url
    | some base =>
      let isSlash (c : Char) : Bool := c == '/'
      String.ofList
        (Text.dropEndWhile isSlash base.toList ++ '/' :: url.toList.dropWhile isSlash)

/-- Whether a text can be sent as the name of the client: it has no control characters but
tabs. -/
def isHeaderValue (text : String) : Bool :=
  text.toList.all fun c => c == '\t' || (0x20 ≤ c.toNat && c.toNat != 0x7F)

/-- A character that may stand in a scheme. -/
def isSchemeChar (c : Char) : Bool :=
  c.isAlphanum || c == '+' || c == '-' || c == '.'

/-- The scheme of a URL in small letters, and what follows its colon. -/
def scheme? (url : List Char) : Option (String × List Char) :=
  match Text.splitAt? ':' url with
  | some (c :: scheme, rest) =>
    if c.isAlpha && scheme.all isSchemeChar then
      some (String.ofList ((c :: scheme).map Char.toLower), rest)
    else none
  | _ => none

/-- A character that ends the authority of a URL. -/
def endsAuthority (c : Char) : Bool :=
  ['/', '\\', '?', '#'].contains c

/-- A character that may not stand in a host. -/
def isForbiddenInHost (c : Char) : Bool :=
  c.toNat ≤ 0x20 || c.toNat == 0x7F ||
    [':', '<', '>', '@', '[', ']', '^', '|', '%'].contains c

def isPort (cs : List Char) : Bool :=
  cs.all Char.isDigit && cs.foldl (fun n c => n * 10 + (c.toNat - '0'.toNat)) 0 ≤ 65535

/-- Whether the authority of a URL has a host. -/
def hasHost (authority : List Char) : Bool :=
  let address := (authority.reverse.takeWhile (· != '@')).reverse
  if address.head? = some '[' then
    match Text.splitAt? ']' address with
    | some (_, []) => true
    | some (_, ':' :: port) => isPort port
    | _ => false
  else
    let (host, port) := (Text.splitAt? ':' address).getD (address, [])
    !host.isEmpty && !host.any isForbiddenInHost && isPort port

/-- Why no page can be requested from a URL, if none can. -/
def requestFault? (url : String) : Option String :=
  match scheme? (Text.trim url.toList) with
  | none => some "builder error"
  | some (scheme, rest) =>
    if scheme = "http" || scheme = "https" then
      let slashes (c : Char) : Bool := c == '/' || c == '\\'
      let authority := (rest.dropWhile slashes).takeWhile fun c => !endsAuthority c
      if hasHost authority then none else some "builder error"
    else some ("builder error for url (" ++ url ++ ")")

end DocContract
