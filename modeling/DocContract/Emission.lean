import DocContract.Code.Declaration
import DocContract.Code.Printer

/-!
# Emitting modules

Each document becomes a module, the shared scope another, and a last file declares them
all.  The checks of the shared scope come after its declarations, as tests.
-/

namespace DocContract

open DocContract.Code

structure GeneratedFile where
  /-- The path below the output directory. -/
  path : String
  contents : String
deriving DecidableEq, Repr

/-- A file of some lines, under a notice. -/
def GeneratedFile.ofLines (path : String) (lines : List Code.Line) : GeneratedFile :=
  { path
    contents :=
      "// This code was automatically generated by docdrift. Do not edit manually.\n\n" ++
        renderLines lines }

structure Module where
  ident : Naming.Ident
  items : List Item
deriving DecidableEq, Repr

namespace Module

def path (module : Module) : String :=
  String.ofList module.ident.written ++ ".rs"

def head : List Code.Line :=
  [plain "#![allow(unused_imports)]", plain "use serde::\x7bDeserialize, Serialize\x7d;",
   plain "use super::*;"]

def file (module : Module) : GeneratedFile :=
  GeneratedFile.ofLines module.path (head ++ module.items.flatMap Item.lines)

end Module

def documentItems (graph : SymbolGraph) : List Symbol → Except EmitError (List Item)
  | [] => .ok []
  | symbol :: symbols => do
    return (← symbolItems graph symbol) ++ (← documentItems graph symbols)

def documentModule (graph : SymbolGraph) (document : DocumentSymbols) :
    Except EmitError Module := do
  return { ident := ← fieldIdent document.document
           items := ← documentItems graph document.symbols }

def emitDocument (graph : SymbolGraph) (document : DocumentSymbols) :
    Except EmitError GeneratedFile :=
  (documentModule graph document).map Module.file

/-- The items of the shared scope and the tests that come after them. -/
structure SharedItems where
  items : List Item := []
  tests : List DecodeTest := []
deriving DecidableEq, Repr

def SharedItems.all (shared : SharedItems) : List Item :=
  shared.items ++ if shared.tests.isEmpty then [] else [.decodeTests shared.tests]

/-- The items of the shared symbols, with the tests apart. -/
def sharedItems (graph : SymbolGraph) : List Symbol → Except EmitError SharedItems
  | [] => .ok {}
  | .unmarshalCheck check :: symbols => do
    let test ← DecodeTest.ofCheck check
    let later ← sharedItems graph symbols
    return { later with tests := test :: later.tests }
  | symbol :: symbols => do
    let items ← symbolItems graph symbol
    let later ← sharedItems graph symbols
    return { later with items := items ++ later.items }

def sharedIdent : Naming.Ident :=
  { text := "global".toList, raw := false }

def sharedModule (graph : SymbolGraph) : Except EmitError Module := do
  return { ident := sharedIdent, items := (← sharedItems graph graph.shared).all }

def emitShared (graph : SymbolGraph) : Except EmitError GeneratedFile :=
  (sharedModule graph).map Module.file

def moduleIdents : List String → Except EmitError (List Naming.Ident)
  | [] => .ok []
  | name :: names => do return (← fieldIdent name) :: (← moduleIdents names)

/-- All modules of a schema, that of the shared scope first. -/
def declaredModules (graph : SymbolGraph) : Except EmitError (List Naming.Ident) := do
  return sharedIdent :: (← moduleIdents (graph.documents.map (·.document)))

/-- The file that declares modules and exports what they declare. -/
def modulesFile (modules : List Naming.Ident) : GeneratedFile :=
  let written := modules.map fun module => String.ofList module.written
  GeneratedFile.ofLines "mod.rs"
    (written.map (fun module => plain ("pub mod " ++ module ++ ";")) ++
      written.map fun module => plain ("pub use " ++ module ++ "::*;"))

def emitModules (graph : SymbolGraph) : Except EmitError GeneratedFile :=
  (declaredModules graph).map modulesFile

/-- The files of an emission in order, and the fault that ended it. -/
structure Emission where
  files : List GeneratedFile := []
  fault : Option EmitError := none
deriving DecidableEq, Repr

/-- Emits one file after the other, up to the first fault. -/
def Emission.ofSteps : List (Except EmitError GeneratedFile) → Emission
  | [] => {}
  | .ok file :: later =>
    let rest := ofSteps later
    { rest with files := file :: rest.files }
  | .error fault :: _ => { fault := some fault }

/-- Emits what comes after the documents; the shared module is kept when the last file
fails. -/
def emitRest (graph : SymbolGraph) : Emission :=
  Emission.ofSteps [emitShared graph, emitModules graph]

/-- Emits a schema: its documents, and then the rest. -/
def emit (graph : SymbolGraph) : Emission :=
  Emission.ofSteps
    (graph.documents.map (emitDocument graph) ++ [emitShared graph, emitModules graph])

end DocContract
