import DocContract.Body
import DocContract.Comparison
import DocContract.Page
import DocContract.Schema.Graph

/-!
# Documents of a run

A conversion is a document with the URL of its page and the script that records the page.
A run reads one page after the other; a document that fails stops nothing but itself.
-/

namespace DocContract

/-- A document and the record of its page. -/
structure Conversion where
  name : String
  url : String
  /-- The documents whose symbols this one refers to. -/
  needs : List String
  script : List ScriptStep

structure Failure where
  document : String
  error : DocumentError
deriving DecidableEq, Repr

/-- Where pages are found: the HTML document under a URL. -/
abbrev Fetcher := String → Except FetchError String

/-- Fetches from a list of pages; of two under one URL the later counts. -/
def fetchFrom (pages : List (String × String)) : Fetcher := fun url =>
  match pages.reverse.lookup url with
  | some html => .ok html
  | none => .error (.notFound url)

def hasConversion (conversions : List Conversion) (name : String) : Bool :=
  conversions.any (·.name == name)

/-- How many conversions have not been selected. -/
def unselected (conversions : List Conversion) (selected : List String) : Nat :=
  (conversions.filter fun c => !selected.contains c.name).length

theorem unselected_cons_lt {conversions : List Conversion} {selected : List String}
    {conversion : Conversion} {name : String}
    (hfind : conversions.find? (·.name == name) = some conversion)
    (hnew : ¬ selected.contains name) :
    unselected conversions (name :: selected) < unselected conversions selected := by
  have hname : conversion.name = name := by simpa using List.find?_some hfind
  have hfilter : (conversions.filter fun c => !(name :: selected).contains c.name) =
      (conversions.filter fun c => !selected.contains c.name).filter (·.name != name) := by
    rw [List.filter_filter]
    congr 1
    funext c
    simp only [List.contains_cons, Bool.not_or]
    rfl
  unfold unselected
  rw [hfilter, List.length_filter_lt_length_iff_exists]
  refine ⟨conversion, List.mem_filter.2 ⟨List.mem_of_find?_eq_some hfind, ?_⟩, ?_⟩
  · simpa [hname] using hnew
  · simp [hname]

/-- The names that are needed for the pending ones, breadth first; an unknown name is the
fault. -/
def reachable (conversions : List Conversion) (selected : List String) :
    List String → Except String (List String)
  | [] => .ok selected
  | name :: pending =>
    if _ : selected.contains name then reachable conversions selected pending
    else
      match _ : conversions.find? (·.name == name) with
      | none => .error name
      | some conversion =>
        reachable conversions (name :: selected) (pending ++ conversion.needs)
termination_by pending => (unselected conversions selected, pending.length)
decreasing_by
  · exact .right _ (Nat.lt_succ_self _)
  · exact .left _ _ (unselected_cons_lt ‹_› ‹_›)

/-- The conversions with the given names and all that those need, in their order; the fault
is the first name that no conversion has. -/
def select (conversions : List Conversion) (names : List String) :
    Except String (List Conversion) :=
  match reachable conversions [] names with
  | .ok selected => .ok (conversions.filter fun c => selected.contains c.name)
  | .error name => .error name

/-- What the page of a conversion is compared by. -/
structure PageSource where
  fetch : Fetcher
  /-- The attribute that holds the page. -/
  payloadAttribute : String
  blocks : BlockReader

/-- Fetches a page and reads its elements. -/
def Conversion.open (conversion : Conversion) (source : PageSource) :
    Except DocumentError Comparison :=
  match source.fetch conversion.url with
  | .error fault => .error (.fetch fault)
  | .ok html =>
    match Page.ofHtml html source.payloadAttribute with
    | .error fault => .error (.grammar fault)
    | .ok page =>
      match bodyElements source.blocks page.body with
      | .error fault => .error (.grammar fault)
      | .ok elements =>
        .ok { document := conversion.name, elements, endpoint := page.endpoint }

/-- Reads a page and builds its part of the schema. -/
def Conversion.run (conversion : Conversion) (source : PageSource) (registry : Registry) :
    Except DocumentError DocumentSymbols × Registry :=
  match conversion.open source with
  | .error error => (.error error, registry)
  | .ok comparison =>
    match comparison.follow conversion.script with
    | .error drift => (.error (.drift drift), registry)
    | .ok comparison =>
      match comparison.finish { registry, symbols := [] } with
      | (.ok (), state) =>
        (.ok { document := conversion.name, symbols := state.symbols }, state.registry)
      | (.error error, state) => (.error error, state.registry)

/-- What the documents of a run have come to. -/
structure Readings where
  registry : Registry := {}
  documents : List DocumentSymbols := []
  failures : List Failure := []
deriving Repr

def Readings.add (source : PageSource) (readings : Readings) (conversion : Conversion) :
    Readings :=
  match conversion.run source readings.registry with
  | (.ok symbols, registry) =>
    { readings with registry, documents := readings.documents ++ [symbols] }
  | (.error error, registry) =>
    let failure := { document := conversion.name, error }
    { readings with registry, failures := readings.failures ++ [failure] }

def readDocuments (source : PageSource) (conversions : List Conversion) : Readings :=
  conversions.foldl (Readings.add source) {}

end DocContract
