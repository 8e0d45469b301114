import DocContract.Notion.Reference
import DocContract.Page
import DocContract.Toml.Entry

/-!
# Settings of a run

Settings come from a file, in which each of them can be left out, and some of them from
variables of the environment, which count more than the file unless they are empty.
-/

namespace DocContract

structure Settings where
  /-- What the URLs of documents are relative to. -/
  baseUrl : String := Notion.baseUrl
  /-- The attribute that holds a page. -/
  payloadAttribute : String := defaultPayloadAttribute
  /-- How many seconds a page may take. -/
  timeout : Nat := 30
  /-- The name under which pages are requested. -/
  userAgent : String := "docdrift/0.1.0"
  /-- Where the code is written. -/
  outputDirectory : String := "generated"
  /-- The documents to be read; all if there are none. -/
  documents : List String := []
deriving DecidableEq, Repr

/-- Why settings are not usable. -/
inductive SettingsError where
  /-- The file cannot be read. -/
  | unreadable (path cause : String)
  | malformed (path : String)
  /-- No document has a name that is given or needed. -/
  | unknownDocument (name : String) (available : List String)
deriving DecidableEq, Repr

def SettingsError.message : SettingsError → String
  | unreadable path cause => "failed to read config file '" ++ path ++ "': " ++ cause
  | malformed path => "invalid config file '" ++ path ++ "': TOML parse error"
  | unknownDocument name available =>
    "unknown document '" ++ name ++ "'. Available documents: " ++
      ", ".intercalate available

namespace Settings

/-- Settings with one more entry of a file; the key must be known and the value of its
type. -/
def set? (settings : Settings) : String × Toml.Value → Option Settings
  | ("base_url", .text text) => some { settings with baseUrl := text }
  | ("payload_attribute", .text text) => some { settings with payloadAttribute := text }
  | ("timeout_secs", .integer n) =>
    if 0 ≤ n then some { settings with timeout := n.toNat } else none
  | ("user_agent", .text text) => some { settings with userAgent := text }
  | ("output_dir", .text text) => some { settings with outputDirectory := text }
  | ("documents", .texts texts) => some { settings with documents := texts }
  | _ => none

def ofToml? (document : String) : Option Settings := do
  (← Toml.entries? document).foldlM set? {}

def baseUrlVariable : String :=
  "DOCDRIFT_BASE_URL"

def outputVariable : String :=
  "DOCDRIFT_OUTPUT_DIR"

/-- The value of a variable that is not empty. -/
def nonEmpty (value : Option String) : Option String :=
  value.filter fun text => !text.isEmpty

def withVariables (settings : Settings) (lookup : String → Option String) : Settings :=
  { settings with
    baseUrl := (nonEmpty (lookup baseUrlVariable)).getD settings.baseUrl
    outputDirectory := (nonEmpty (lookup outputVariable)).getD settings.outputDirectory }

/-- The conversions of the documents to be read, with all that they need. -/
def select (settings : Settings) (conversions : List Conversion) :
    Except SettingsError (List Conversion) :=
  match settings.documents with
  | [] => .ok conversions
  | names =>
    match DocContract.select conversions names with
    | .ok selected => .ok selected
    | .error name => .error (.unknownDocument name (conversions.map (·.name)))

end Settings

end DocContract
