import DocContract.Text.Blank

/-!
# Arguments of the command line

The arguments name a command, with options before and after it.  An option has a long name
or one letter; letters can be written together, and a value follows its option, directly or
as the next argument.  What is not understood is refused.
-/

namespace DocContract.Cli

/-- How a failed run is reported. -/
inductive ReportFormat where
  | terminal
  | json
deriving DecidableEq, Repr

def ReportFormat.ofName? : String → Option ReportFormat
  | "terminal" => some .terminal
  | "json" => some .json
  | _ => none

structure SyncOptions where
  config : Option String := none
  documents : List String := []
  output : Option String := none
  baseUrl : Option String := none
  offline : Bool := false
  dryRun : Bool := false
  report : Option ReportFormat := none
deriving DecidableEq, Repr

/-- What the arguments ask for. -/
inductive Request where
  /-- A run over the documents. -/
  | sync (options : SyncOptions)
  /-- The known documents. -/
  | list
  | help
  | version
deriving DecidableEq, Repr

inductive OptionName where
  | verbose
  | jsonLogs
  | help
  | version
  | config
  | document
  | output
  | baseUrl
  | offline
  | dryRun
  | report
deriving DecidableEq, Repr

namespace OptionName

def ofLong? : String → Option OptionName
  | "json" => some jsonLogs
  | "help" => some help
  | "version" => some version
  | "config" => some config
  | "document" => some document
  | "output" => some output
  | "base-url" => some baseUrl
  | "offline" => some offline
  | "dry-run" => some dryRun
  | "report" => some report
  | _ => none

def ofLetter? : Char → Option OptionName
  | 'v' => some verbose
  | 'h' => some help
  | 'V' => some version
  | 'c' => some config
  | 'd' => some document
  | 'o' => some output
  | _ => none

def hasValue : OptionName → Bool
  | config | document | output | baseUrl | report => true
  | _ => false

/-- Whether an option can be given more than once. -/
def repeats : OptionName → Bool
  | verbose | document => true
  | _ => false

end OptionName

/-- Where an option is given: in front of the command or behind it. -/
inductive Position where
  | front
  | list
  | sync
deriving DecidableEq, Repr

/-- Whether an option can be given at a position. -/
def OptionName.allowedAt (name : OptionName) : Position → Bool
  | .sync => name != .version
  | .list => name == .verbose || name == .jsonLogs || name == .help
  | .front => name == .verbose || name == .jsonLogs || name == .help || name == .version

structure GivenOption where
  name : OptionName
  value : String := ""
deriving DecidableEq, Repr

/-- Whether an argument begins an option, so that it is no value. -/
def looksLikeOption (argument : String) : Bool :=
  match argument.toList with
  | '-' :: _ :: _ => true
  | _ => false

/-- An option whose value is the next argument, with the arguments behind it. -/
def valueNext? (name : OptionName) : List String → Option (GivenOption × List String)
  | [] => none
  | value :: rest => if looksLikeOption value then none else some ({ name, value }, rest)

/-- The option with a long name, which a value may follow after an equals sign. -/
def longOption? (text : List Char) (rest : List String) :
    Option (GivenOption × List String) := do
  match Text.splitAt? '=' text with
  | some (name, value) =>
    let name ← OptionName.ofLong? (String.ofList name)
    if name.hasValue then return ({ name, value := String.ofList value }, rest) else none
  | none =>
    let name ← OptionName.ofLong? (String.ofList text)
    if name.hasValue then valueNext? name rest else return ({ name }, rest)

/-- The options in letters that are written together. -/
def letterOptions? (rest : List String) :
    List Char → Option (List GivenOption × List String)
  | [] => some ([], rest)
  | c :: letters => do
    let name ← OptionName.ofLetter? c
    if name.hasValue then
      match letters with
      | [] => (valueNext? name rest).map fun (given, rest) => ([given], rest)
      | '=' :: value => return ([{ name, value := String.ofList value }], rest)
      | value => return ([{ name, value := String.ofList value }], rest)
    else
      let (options, rest) ← letterOptions? rest letters
      return ({ name } :: options, rest)

/-- The options in an argument, and the arguments behind them. -/
def optionsIn? (argument : String) (rest : List String) :
    Option (List GivenOption × List String) :=
  match argument.toList with
  | '-' :: '-' :: text => (longOption? text rest).map fun (given, rest) => ([given], rest)
  | '-' :: letters => letterOptions? rest letters
  | _ => none

def SyncOptions.with? (options : SyncOptions) (given : GivenOption) : Option SyncOptions :=
  match given.name with
  | .config =>
    if given.value.isEmpty then none else some { options with config := some given.value }
  | .output =>
    if given.value.isEmpty then none else some { options with output := some given.value }
  | .document => some { options with documents := options.documents ++ [given.value] }
  | .baseUrl => some { options with baseUrl := some given.value }
  | .offline => some { options with offline := true }
  | .dryRun => some { options with dryRun := true }
  | .report =>
    (ReportFormat.ofName? given.value).map fun report =>
      { options with report := some report }
  | _ => some options

/-- What has been read of a command and its options. -/
structure Reading where
  position : Position := .front
  /-- The options that were given at this position. -/
  seen : List OptionName := []
  options : SyncOptions := {}

/-- What has been read, or what is asked for before all is read. -/
inductive Progress where
  | reading (reading : Reading)
  | answered (request : Request)

namespace Reading

def option? (reading : Reading) (given : GivenOption) : Option Progress :=
  if !given.name.allowedAt reading.position then none
  else if reading.seen.contains given.name && !given.name.repeats then none
  else
    match given.name with
    | .help => some (.answered .help)
    | .version => some (.answered .version)
    | name =>
      (reading.options.with? given).map fun options =>
        .reading { reading with options, seen := name :: reading.seen }

/-- Reads options up to the first that asks for something. -/
def options? (reading : Reading) : List GivenOption → Option Progress
  | [] => some (.reading reading)
  | given :: later =>
    match reading.option? given with
    | some (.reading reading) => reading.options? later
    | answer => answer

def request? (reading : Reading) : Option Request :=
  match reading.position with
  | .front => none
  | .list => some .list
  | .sync => some (.sync reading.options)

/-- The request for help on what follows. -/
def helpRequest? : List String → Option Request
  | [] => some .help
  | [command] => if ["sync", "list", "help"].contains command then some .help else none
  | _ => none

def arguments? (reading : Reading) : List String → Option Request
  | [] => reading.request?
  | argument :: rest =>
    if argument = "--" then
      if rest.isEmpty then reading.request? else none
    else if looksLikeOption argument then
      match optionsIn? argument rest with
      | none => none
      | some (options, behind) =>
        match reading.options? options with
        | some (.reading reading) =>
          if _h : behind.length ≤ rest.length then reading.arguments? behind else none
        | some (.answered request) => some request
        | none => none
    else
      match reading.position, argument with
      | .front, "sync" => arguments? { reading with position := .sync, seen := [] } rest
      | .front, "list" => arguments? { reading with position := .list, seen := [] } rest
      | .front, "help" => helpRequest? rest
      | _, _ => none
termination_by arguments => arguments.length

end Reading

/-- What arguments ask for, if they are understood. -/
def Request.ofArguments? (arguments : List String) : Option Request :=
  ({} : Reading).arguments? arguments

end DocContract.Cli
