import DocContract.Cli.Arguments
import DocContract.Cli.FileTree
import DocContract.Cli.Variables
import DocContract.Report
import DocContract.Settings
import DocContract.Url

/-!
# Commands

What a command does, as a function of the files, the variables and the pages that it finds:
what it prints, the files that there are afterwards, and its exit code.
-/

namespace DocContract.Cli

open DocContract.Code (EmitError)

/-- What a command finds. -/
structure World where
  files : FileTree := []
  environment : Variables := []
  /-- What is served under an absolute URL. -/
  web : Fetcher

/-- What a command comes to. -/
structure Outcome where
  exitCode : Nat := 0
  stdout : String := ""
  stderr : String := ""
  /-- The files after the command. -/
  files : FileTree

namespace World

/-- The outcome of a command that refuses to begin. -/
def refuse (world : World) (message : String) : Outcome :=
  { exitCode := 2, stderr := "Error: " ++ message ++ "\n", files := world.files }

/-- The variables of a command, with those of the file for them. -/
def allVariables (world : World) : Variables :=
  match world.files.read [".env"] with
  | .ok file => world.environment.withFile file
  | .error _ => world.environment

end World

/-- A text with blanks behind it, up to a width. -/
def padded (width : Nat) (text : String) : String :=
  text ++ String.ofList (List.replicate (width - text.length) ' ')

/-- The known documents with their URLs. -/
def listing : String :=
  String.join (Notion.conversions.map fun c => padded 16 c.name ++ " " ++ c.url ++ "\n")

/-- The file of settings that is read when none is named. -/
def defaultSettingsFile : String :=
  "docdrift.toml"

def readSettings (files : FileTree) (path : String) : Except SettingsError Settings :=
  match files.read (Path.ofText path) with
  | .error fault => .error (.unreadable path fault.message)
  | .ok contents =>
    match Settings.ofToml? contents with
    | some settings => .ok settings
    | none => .error (.malformed path)

/-- The settings of the file that is named, or of the usual one if there is one. -/
def loadSettings (files : FileTree) (path : Option String) :
    Except SettingsError Settings :=
  match path with
  | some path => readSettings files path
  | none =>
    match files.read (Path.ofText defaultSettingsFile) with
    | .error .absent => .ok {}
    | _ => readSettings files defaultSettingsFile

/-- Settings under the options of a command. -/
def SyncOptions.apply (options : SyncOptions) (settings : Settings) : Settings :=
  { settings with
    documents :=
      if options.documents.isEmpty then settings.documents else options.documents
    outputDirectory := options.output.getD settings.outputDirectory
    baseUrl := options.baseUrl.getD settings.baseUrl }

/-- The settings of a run: the file counts least, then the variables, then the options. -/
def World.settings (world : World) (options : SyncOptions) :
    Except SettingsError Settings := do
  let settings ← loadSettings world.files options.config
  let environment := world.allVariables
  return options.apply (settings.withVariables fun name => environment.lookup name)

def below (directory name : String) : String :=
  if directory.isEmpty || directory.endsWith "/" then directory ++ name
  else directory ++ "/" ++ name

/-- A directory as it is named in messages. -/
def shownDirectory (directory : String) : String :=
  let isSlash (c : Char) : Bool := c == '/'
  match Text.dropEndWhile isSlash directory.toList with
  | [] => directory
  | shown => String.ofList shown

/-- The name of a file whose contents are not complete yet. -/
def temporaryName (name : String) : String :=
  let stem := (name.toList.reverse.dropWhile (· != '.')).drop 1
  String.ofList stem.reverse ++ ".tmp"

/-- Writes a file under a temporary name and gives it its own. -/
def writeFile (directory : String) (files : FileTree) (file : GeneratedFile) :
    Option EmitError × FileTree :=
  let target := below directory file.path
  let temporary := below directory (temporaryName file.path)
  match files.openDirectory (Path.ofText directory) with
  | .error fault => (some (.unwritable (shownDirectory directory) fault.message), files)
  | .ok () =>
    match files.write (Path.ofText temporary) file.contents with
    | .error fault => (some (.unwritable temporary fault.message), files)
    | .ok written =>
      match written.write (Path.ofText target) file.contents with
      | .error fault => (some (.unwritable target fault.message), written)
      | .ok moved => (none, moved.erase (Path.ofText temporary))

/-- Writes files up to the first that cannot be written. -/
def writeFiles (directory : String) (files : FileTree) :
    List GeneratedFile → Option EmitError × FileTree
  | [] => (none, files)
  | file :: later =>
    match writeFile directory files file with
    | (none, files) => writeFiles directory files later
    | failed => failed

/-- Fetches pages from the web, under the base URL of the settings. -/
def webFetcher (world : World) (settings : Settings) : Fetcher := fun url =>
  let url := resolveUrl (some settings.baseUrl) url
  match requestFault? url with
  | some cause => .error (.http cause)
  | none => world.web url

def report (format : ReportFormat) (error : RunError) (files : FileTree) : Outcome :=
  match format with
  | .terminal => { exitCode := 1, stderr := error.terminalReport, files }
  | .json =>
      { exitCode := 1, stdout := String.ofList (error.toJson.indented 0) ++ "\n", files }

def printed (files : List GeneratedFile) : String :=
  String.join (files.map fun file =>
    "// ===== " ++ file.path ++ " =====\n" ++ file.contents ++ "\n")

def summary (settings : Settings) (files : List GeneratedFile) : String :=
  "Generated " ++ toString files.length ++ " module(s) in " ++
    settings.outputDirectory ++ "\n"

/-- Runs the conversions and prints or writes the files. -/
def World.execute (world : World) (options : SyncOptions) (settings : Settings)
    (fetch : Fetcher) (conversions : List Conversion) : Outcome :=
  let source :=
    { fetch, payloadAttribute := settings.payloadAttribute, blocks := Markdown.read }
  let outcome := run source conversions
  let format := options.report.getD .terminal
  if options.dryRun then
    match outcome.result with
    | .error error => report format error world.files
    | .ok _ => { stdout := printed outcome.files, files := world.files }
  else
    match writeFiles settings.outputDirectory world.files outcome.files with
    | (some fault, files) => report format (.emit fault) files
    | (none, files) =>
      match outcome.result with
      | .error error => report format error files
      | .ok _ => { stderr := summary settings outcome.files, files }

def World.sync (world : World) (options : SyncOptions) : Outcome :=
  match world.settings options with
  | .error error => world.refuse error.message
  | .ok settings =>
    match settings.select Notion.conversions with
    | .error error => world.refuse error.message
    | .ok conversions =>
      if options.offline then
        let fetch := Notion.recordedFetcher settings.payloadAttribute
        world.execute options settings fetch conversions
      else if isHeaderValue settings.userAgent then
        world.execute options settings (webFetcher world settings) conversions
      else world.refuse (FetchError.http "builder error").message

def usage : String :=
  "Checks API documentation for drift and regenerates the data model\n\n" ++
    "Usage: docdrift [OPTIONS] <COMMAND>\n\n" ++
    "Commands:\n" ++
    "  sync  Compare every documentation page and regenerate the data model\n" ++
    "  list  List the known documents\n" ++
    "  help  Print this message\n"

def versionLine : String :=
  "docdrift 0.1.0\n"

/-- What a request comes to. -/
def World.answer (world : World) : Request → Outcome
  | .list => { stdout := listing, files := world.files }
  | .help => { stdout := usage, files := world.files }
  | .version => { stdout := versionLine, files := world.files }
  | .sync options => world.sync options

end DocContract.Cli
