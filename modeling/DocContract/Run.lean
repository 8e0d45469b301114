import DocContract.Conversion
import DocContract.Emission

/-!
# Runs

A run reads all documents, puts the schema in order and emits the code.  Nothing is emitted
unless every document was read and the schema is consistent.
-/

namespace DocContract

open DocContract.Code (EmitError)

inductive RunError where
  | documents (failures : List Failure)
  | finalize (fault : SchemaError)
  | emit (fault : EmitError)
deriving DecidableEq, Repr

def Failure.message (failure : Failure) : String :=
  "  [" ++ failure.document ++ "] " ++ failure.error.message

def RunError.message : RunError → String
  | documents failures =>
    toString failures.length ++ " document(s) failed:\n" ++
      "\n".intercalate (failures.map Failure.message)
  | finalize fault => "schema finalization failed: " ++ fault.message
  | emit fault => "emission failed: " ++ fault.message

/-- What a run came to, and the files that it emitted. -/
structure RunOutcome where
  result : Except RunError SymbolGraph
  files : List GeneratedFile

def run (source : PageSource) (conversions : List Conversion) : RunOutcome :=
  let readings := readDocuments source conversions
  match readings.failures with
  | [] =>
    match readings.registry.finalize readings.documents with
    | .error fault => { result := .error (.finalize fault), files := [] }
    | .ok graph =>
      let emission := emit graph
      match emission.fault with
      | some fault => { result := .error (.emit fault), files := emission.files }
      | none => { result := .ok graph, files := emission.files }
  | failures => { result := .error (.documents failures), files := [] }

end DocContract
