import DocContract.Cli.Command

/-!
# The command

Reads the files and variables that the arguments ask for, and carries out what comes of
them.  Pages of the web are not requested from here; a run that needs them reports that it
could not.
-/

namespace DocContract.Cli

/-- The file at a path, if it can be read. -/
def readFile? (path : String) : IO (Option String) := do
  try
    return some (← IO.FS.readFile path)
  catch _ =>
    return none

/-- Whether a character may stand in a name that a file of variables refers to. -/
def isNameChar (c : Char) : Bool :=
  isVariableChar c || Text.isAlphanumeric c

/-- The names that a file of variables may refer to. -/
def namesIn (file : String) : List String :=
  (Naming.runs isNameChar file.toList ++
    Naming.runs Text.isAlphanumeric file.toList).map String.ofList

def readVariables (names : List String) : IO Variables := do
  let values ← names.eraseDups.mapM fun name => do
    return (← IO.getEnv name).map (name, ·)
  return values.filterMap id

def readFiles (paths : List String) : IO FileTree := do
  let files ← paths.mapM fun path => do
    return (← readFile? path).map (Path.ofText path, ·)
  return files.filterMap id

def pathsOf : Request → List String
  | .sync options => [".env", options.config.getD defaultSettingsFile]
  | _ => []

def noWeb : Fetcher := fun url =>
  .error (.http ("error sending request for url (" ++ url ++ ")"))

def textOf (path : Path) : String :=
  match path with
  | "/" :: names => "/" ++ "/".intercalate names
  | names => "/".intercalate names

/-- Writes a file; answers why it cannot be written. -/
def writeAt (path : Path) (contents : String) : IO (Option Code.EmitError) := do
  try
    unless path.dropLast.isEmpty do
      IO.FS.createDirAll (textOf path.dropLast)
    IO.FS.writeFile (textOf path) contents
    return none
  catch fault =>
    return some (.unwritable (textOf path) (toString fault))

/-- Writes files up to the first that cannot be written. -/
def writeAll : FileTree → IO (Option Code.EmitError)
  | [] => return none
  | (path, contents) :: later => do
    match ← writeAt path contents with
    | none => writeAll later
    | fault => return fault

def Request.perform (request : Request) : IO UInt32 := do
  let files ← readFiles (pathsOf request)
  let mentioned := ((files.file? [".env"]).map namesIn).getD []
  let environment ← readVariables
    ([Settings.baseUrlVariable, Settings.outputVariable] ++ mentioned)
  let outcome := World.answer { files, environment, web := noWeb } request
  let added := outcome.files.filter fun (path, contents) =>
    files.file? path != some contents
  match ← writeAll added.reverse with
  | some fault =>
    IO.eprint (RunError.emit fault).terminalReport
    return 1
  | none =>
    IO.print outcome.stdout
    IO.eprint outcome.stderr
    return UInt32.ofNat outcome.exitCode

end DocContract.Cli

open DocContract.Cli in
def main (arguments : List String) : IO UInt32 := do
  match Request.ofArguments? arguments with
  | some request => request.perform
  | none =>
    IO.eprint usage
    return 2
