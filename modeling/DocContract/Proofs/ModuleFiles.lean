import DocContract.Proofs.DocumentModules
import DocContract.Proofs.TypeNames

/-!
# Files of modules

The file of a document and its entry in the list of modules are made of one identifier.
Two documents have one file between them when their names have the same words, and the
shared scope and the list itself are files like the others.  A module is looked up without
the mark of a keyword, but its file is written with it.
-/

namespace DocContract

open DocContract.Code (Line fieldIdent plain renderLines snakeName)
open DocContract.Naming (Ident)

theorem isIdentifierChar_of_mem_isIdentifier {text : List Char} {c : Char}
    (htext : Naming.isIdentifier text = true) (hmem : c ∈ text) :
    Naming.isIdentifierChar c = true := by
  cases text with
  | nil => contradiction
  | cons first rest =>
      obtain ⟨hfirst, hrest⟩ := Bool.and_eq_true_iff.1 htext
      cases hmem with
      | head =>
          have hletter : c.isAlpha = true ∨ (c == '_') = true :=
            Bool.or_eq_true_iff.1 hfirst
          rw [Naming.isIdentifierChar, Char.isAlphanum, Bool.or_eq_true, Bool.or_eq_true]
          exact hletter.imp_left Or.inl
      | tail _ hlater => exact List.all_eq_true.1 hrest c hlater

/-- An identifier of a field or module is marked just if it is a keyword. -/
structure Naming.Ident.IsModule (ident : Ident) : Prop where
  isIdentifier : Naming.isIdentifier ident.text = true
  raw_eq : ident.raw = Naming.isKeyword ident.text

namespace Naming.Ident

def filePath (ident : Ident) : String :=
  String.ofList ident.written ++ ".rs"

/-- The path under which a module is looked up. -/
def soughtPath (ident : Ident) : String :=
  String.ofList ident.text ++ ".rs"

theorem filePath_inj {a b : Ident} : a.filePath = b.filePath ↔ a.written = b.written := by
  rw [filePath, filePath, String.append_left_inj, String.ofList_inj]

section Modules

variable {a b : Ident} (ha : a.IsModule) (hb : b.IsModule)

include ha

theorem IsModule.hash_notMem_text : '#' ∉ a.text := by
  intro hmem
  have hchar := isIdentifierChar_of_mem_isIdentifier ha.isIdentifier hmem
  contradiction

theorem IsModule.hash_mem_written_iff : '#' ∈ a.written ↔ a.raw = true := by
  rw [written]
  by_cases hraw : a.raw = true
  · simp [hraw]
  · simp [hraw, ha.hash_notMem_text]

include hb

theorem IsModule.ext (htext : a.text = b.text) : a = b := by
  have hraw : a.raw = b.raw := by rw [ha.raw_eq, hb.raw_eq, htext]
  cases a
  cases b
  exact congrArg₂ Ident.mk htext hraw

theorem IsModule.written_inj (hwritten : a.written = b.written) : a = b := by
  have hraw : a.raw = b.raw := by
    rw [Bool.eq_iff_iff, ← ha.hash_mem_written_iff, ← hb.hash_mem_written_iff, hwritten]
  apply ha.ext hb
  rw [written, written, hraw] at hwritten
  by_cases hmarked : b.raw = true
  · simpa [hmarked] using hwritten
  · simpa [hmarked] using hwritten

theorem IsModule.filePath_eq_soughtPath_iff :
    b.filePath = a.soughtPath ↔ b = a ∧ a.raw = false := by
  rw [filePath, soughtPath, String.append_left_inj, String.ofList_inj]
  constructor
  · intro hpath
    have hunmarked : b.raw = false := by
      rw [← Bool.not_eq_true, ← hb.hash_mem_written_iff, hpath]
      exact ha.hash_notMem_text
    have htext : b.text = a.text := by simpa [written, hunmarked] using hpath
    obtain rfl := hb.ext ha htext
    exact ⟨rfl, hunmarked⟩
  · rintro ⟨rfl, hunmarked⟩
    simp [written, hunmarked]

end Modules

end Naming.Ident

theorem isModule_of_fieldIdent {name : String} {ident : Ident}
    (hident : fieldIdent name = .ok ident) :
    ident.IsModule ∧ String.ofList ident.text = snakeName name := by
  obtain ⟨rfl, hidentifier⟩ := eq_of_fieldIdent hident
  rw [snakeName]
  generalize Naming.snakeCase name.toList = text at hidentifier ⊢
  exact ⟨⟨hidentifier, rfl⟩, rfl⟩

theorem isModule_sharedIdent : sharedIdent.IsModule := by
  constructor
  · decide
  · decide +kernel

theorem declaredModules_cases {graph : SymbolGraph} {modules : List Ident}
    (hmodules : declaredModules graph = .ok modules) :
    ∃ idents, modules = sharedIdent :: idents ∧
      moduleIdents (graph.documents.map (·.document)) = .ok idents := by
  obtain ⟨idents, hidents, hall⟩ := exists_of_bind_eq_ok hmodules
  exact ⟨idents, (Except.ok.inj hall).symm, hidents⟩

theorem moduleIdents_cons_cases {name : String} {names : List String} {idents : List Ident}
    (hidents : moduleIdents (name :: names) = .ok idents) :
    ∃ first later, idents = first :: later ∧ fieldIdent name = .ok first ∧
      moduleIdents names = .ok later := by
  obtain ⟨first, hfirst, hrest⟩ := exists_of_bind_eq_ok hidents
  obtain ⟨later, hlater, hall⟩ := exists_of_bind_eq_ok hrest
  exact ⟨first, later, (Except.ok.inj hall).symm, hfirst, hlater⟩

theorem isModule_of_moduleIdents {names : List String} {idents : List Ident}
    (hidents : moduleIdents names = .ok idents) :
    (∀ ident ∈ idents, ident.IsModule) ∧
      idents.map (String.ofList ·.text) = names.map snakeName := by
  induction names generalizing idents with
  | nil =>
      obtain rfl := Except.ok.inj hidents
      simp
  | cons name names ih =>
      obtain ⟨first, later, rfl, hfirst, hlater⟩ := moduleIdents_cons_cases hidents
      obtain ⟨hmodule, htext⟩ := isModule_of_fieldIdent hfirst
      obtain ⟨hmodules, htexts⟩ := ih hlater
      constructor
      · exact List.forall_mem_cons.2 ⟨hmodule, hmodules⟩
      · rw [List.map_cons, List.map_cons, htext, htexts]

theorem isModule_of_declaredModules {graph : SymbolGraph} {modules : List Ident}
    (hmodules : declaredModules graph = .ok modules) :
    (∀ module ∈ modules, module.IsModule) ∧
      modules.map (String.ofList ·.text) =
        "global" :: graph.documents.map (snakeName ·.document) := by
  obtain ⟨idents, rfl, hidents⟩ := declaredModules_cases hmodules
  obtain ⟨hall, htexts⟩ := isModule_of_moduleIdents hidents
  constructor
  · exact List.forall_mem_cons.2 ⟨isModule_sharedIdent, hall⟩
  · rw [List.map_cons, htexts, List.map_map]
    rfl

def modulesText (modules : List Ident) : String :=
  (GeneratedFile.ofLines "mod.rs" []).contents ++
    String.join (modules.map fun module =>
      "pub mod " ++ String.ofList module.written ++ ";\n") ++
    String.join (modules.map fun module =>
      "pub use " ++ String.ofList module.written ++ "::*;\n")

theorem render_plain (text : String) : (plain text).render = text ++ "\n" := by
  have hblank : Code.blanks 0 ++ text = text := String.empty_append
  rw [← hblank]
  rfl

theorem contents_modulesFile (modules : List Ident) :
    (modulesFile modules).contents = modulesText modules := by
  have hdeclared (module : Ident) :
      (plain ("pub mod " ++ String.ofList module.written ++ ";")).render =
        "pub mod " ++ String.ofList module.written ++ ";\n" := by
    rw [render_plain, String.append_assoc]
    rfl
  have hexported (module : Ident) :
      (plain ("pub use " ++ String.ofList module.written ++ "::*;")).render =
        "pub use " ++ String.ofList module.written ++ "::*;\n" := by
    rw [render_plain, String.append_assoc]
    rfl
  simp only [modulesFile, modulesText, GeneratedFile.ofLines, renderLines, List.map_append,
    List.map_map, Function.comp_def, hdeclared, hexported, List.map_nil, String.join_nil,
    String.append_empty]
  rw [String.join_append, ← String.append_assoc]

/-! ## Paths -/

theorem paths_of_attempts {graph : SymbolGraph} {documents : List DocumentSymbols}
    {files : List GeneratedFile}
    (hfiles : List.Forall₂ (Attempt.Yields graph)
      (documents.map .document ++ [.shared, .modules]) files) :
    ∃ idents, moduleIdents (documents.map (·.document)) = .ok idents ∧
      files.map (·.path) = idents.map Ident.filePath ++ ["global.rs", "mod.rs"] := by
  induction documents generalizing files with
  | nil =>
      obtain ⟨shared, rest, hshared, hrest, rfl⟩ := List.forall₂_cons_left_iff.1 hfiles
      obtain ⟨list, none, hlist, hnone, rfl⟩ := List.forall₂_cons_left_iff.1 hrest
      obtain rfl := List.forall₂_nil_left_iff.1 hnone
      have hsharedPath : shared.path = "global.rs" := hshared.path
      have hlistPath : list.path = "mod.rs" := hlist.path
      exact ⟨[], rfl, by simp [hsharedPath, hlistPath]⟩
  | cons document documents ih =>
      obtain ⟨file, rest, hfile, hrest, rfl⟩ := List.forall₂_cons_left_iff.1 hfiles
      obtain ⟨idents, hidents, hpaths⟩ := ih hrest
      obtain ⟨ident, hident, hpath⟩ := hfile.path
      refine ⟨ident :: idents, ?_, ?_⟩
      · rw [List.map_cons, moduleIdents, hident, hidents]
        rfl
      · rw [List.map_cons, hpaths, hpath]
        rfl

theorem getLast?_of_attempts {graph : SymbolGraph} {files : List GeneratedFile}
    (hfiles : List.Forall₂ (Attempt.Yields graph) graph.attempts files) :
    ∃ file, emitModules graph = .ok file ∧ files.getLast? = some file := by
  have hattempts : graph.attempts.reverse =
      .modules :: (graph.documents.map Attempt.document ++ [Attempt.shared]).reverse := by
    simp [SymbolGraph.attempts]
  have hreversed := List.rel_reverse hfiles
  rw [hattempts] at hreversed
  obtain ⟨file, rest, hfile, -, hfirst⟩ := List.forall₂_cons_left_iff.1 hreversed
  refine ⟨file, hfile.emit_eq, ?_⟩
  rw [List.getLast?_eq_head?_reverse, hfirst, List.head?_cons]

theorem filePath_sharedIdent : sharedIdent.filePath = "global.rs" := by
  decide

theorem paths_perm {graph : SymbolGraph} {modules : List Ident}
    {files : List GeneratedFile}
    (hmodules : declaredModules graph = .ok modules)
    (hfiles : List.Forall₂ (Attempt.Yields graph) graph.attempts files) :
    (files.map (·.path)).Perm ("mod.rs" :: modules.map Ident.filePath) := by
  obtain ⟨idents, rfl, hidents⟩ := declaredModules_cases hmodules
  obtain ⟨idents', hidents', hpaths⟩ := paths_of_attempts hfiles
  obtain rfl : idents = idents' := Except.ok.inj (hidents.symm.trans hidents')
  rw [hpaths, List.map_cons, filePath_sharedIdent]
  apply List.perm_append_comm.trans
  exact List.Perm.swap _ _ _

section Paths

variable {modules : List Ident} (hmodules : ∀ module ∈ modules, module.IsModule)

include hmodules

theorem nodup_map_text_iff :
    (modules.map (String.ofList ·.text)).Nodup ↔ modules.Nodup := by
  constructor
  · exact List.Nodup.of_map _
  · intro hnodup
    apply hnodup.map_on
    intro a ha b hb htext
    exact (hmodules a ha).ext (hmodules b hb) (String.ofList_inj.1 htext)

theorem nodup_map_filePath_iff : (modules.map Ident.filePath).Nodup ↔ modules.Nodup := by
  constructor
  · exact List.Nodup.of_map _
  · intro hnodup
    apply hnodup.map_on
    intro a ha b hb hpath
    exact (hmodules a ha).written_inj (hmodules b hb) (Ident.filePath_inj.1 hpath)

/-- No module has the file of the list: the identifier for it would be a keyword. -/
theorem modPath_notMem : "mod.rs" ∉ modules.map Ident.filePath := by
  -- A module that is looked up there is marked, so that its file has another name.
  have hmarked : Ident.IsModule ⟨"mod".toList, true⟩ := ⟨by decide, by decide +kernel⟩
  intro hmem
  obtain ⟨module, hmodule, hpath⟩ := List.mem_map.1 hmem
  have hsought : module.filePath = Ident.soughtPath ⟨"mod".toList, true⟩ :=
    hpath.trans (by decide)
  have hunmarked :=
    (hmarked.filePath_eq_soughtPath_iff (hmodules module hmodule)).1 hsought
  exact Bool.noConfusion hunmarked.2

theorem count_filePath_eq_soughtPath {module : Ident} (hmem : module ∈ modules) :
    (modules.map Ident.filePath).count module.soughtPath =
      if module.raw then 0 else modules.count module := by
  have hiff : ∀ other ∈ modules,
      other.filePath = module.soughtPath ↔ other = module ∧ module.raw = false :=
    fun other hother => (hmodules module hmem).filePath_eq_soughtPath_iff
      (hmodules other hother)
  rw [List.count, List.countP_map]
  by_cases hraw : module.raw = true
  · rw [if_pos hraw, List.countP_eq_zero]
    intro other hother hpath
    have hunmarked := ((hiff other hother).1 (beq_iff_eq.1 hpath)).2
    simp [hraw] at hunmarked
  · rw [if_neg hraw, List.count]
    apply List.countP_congr
    intro other hother
    have hunmarked : module.raw = false := Bool.not_eq_true _ ▸ hraw
    simpa [hunmarked] using hiff other hother

end Paths

theorem modPath_eq_soughtPath_iff {ident : Ident} :
    "mod.rs" = ident.soughtPath ↔ String.ofList ident.text = "mod" := by
  have hmod : "mod.rs" = "mod" ++ ".rs" := by decide
  rw [hmod, Ident.soughtPath, String.append_left_inj, eq_comm]

theorem count_soughtPath {graph : SymbolGraph} {modules : List Ident}
    {files : List GeneratedFile}
    {module : Ident} (hmodules : declaredModules graph = .ok modules)
    (hfiles : List.Forall₂ (Attempt.Yields graph) graph.attempts files)
    (hmem : module ∈ modules) :
    (files.map (·.path)).count module.soughtPath =
      if module.raw then if String.ofList module.text = "mod" then 1 else 0
      else modules.count module := by
  have hall := (isModule_of_declaredModules hmodules).1
  rw [(paths_perm hmodules hfiles).count_eq, List.count_cons,
    count_filePath_eq_soughtPath hall hmem]
  by_cases hraw : module.raw = true
  · simp [hraw, modPath_eq_soughtPath_iff]
  · have hmod : String.ofList module.text ≠ "mod" := by
      intro htext
      have hkeyword := (hall module hmem).raw_eq
      rw [Naming.isKeyword, htext] at hkeyword
      apply hraw
      rw [hkeyword]
      decide
    simp [hraw, modPath_eq_soughtPath_iff, hmod]

/-- The files of a run that succeeds and the modules that the last of them declares, the
list of modules.  No two files have one path just if no module is declared twice, and that
is so just if no two names of documents have the same words and none has those of the
shared scope.  A module is looked up under the path of one file for each time it is
declared, unless it is marked as a keyword: then no file but the list itself can be
found. -/
theorem module_files_of_run
    {source : PageSource} {conversions : List Conversion} {graph : SymbolGraph}
    (hresult : (run source conversions).result = .ok graph) :
    ∃ modules list, declaredModules graph = .ok modules ∧
      (run source conversions).files.getLast? = some list ∧
      list.path = "mod.rs" ∧ list.contents = modulesText modules ∧
      ((run source conversions).files.map (·.path)).Perm
        ("mod.rs" :: modules.map Ident.filePath) ∧
      (((run source conversions).files.map (·.path)).Nodup ↔ modules.Nodup) ∧
      (modules.Nodup ↔
        ("global" :: conversions.map fun conversion => snakeName conversion.name).Nodup) ∧
      ∀ module ∈ modules,
        ((run source conversions).files.map (·.path)).count module.soughtPath =
          if module.raw then if String.ofList module.text = "mod" then 1 else 0
          else modules.count module := by
  obtain ⟨hread, hfinishes, hfiles⟩ := ends_of_result hresult
  obtain ⟨list, hlist, hlast⟩ := getLast?_of_attempts hfiles
  obtain ⟨modules, hmodules, rfl⟩ := (map_eq_ok_iff _ _ _).1 hlist
  obtain ⟨hall, htexts⟩ := isModule_of_declaredModules hmodules
  have hperm := paths_perm hmodules hfiles
  have hnames : (graph.documents.map (snakeName ·.document)).Perm
      (conversions.map fun conversion => snakeName conversion.name) := by
    have hdocuments := hfinishes.documents_perm.map DocumentSymbols.document
    rw [names_of_readingsFrom hread] at hdocuments
    simpa [Function.comp_def] using hdocuments.map snakeName
  refine ⟨modules, modulesFile modules, hmodules, hlast, rfl, contents_modulesFile modules,
    hperm, ?_, ?_, ?_⟩
  · rw [hperm.nodup_iff, List.nodup_cons, and_iff_right (modPath_notMem hall),
      nodup_map_filePath_iff hall]
  · rw [← nodup_map_text_iff hall, htexts, (hnames.cons "global").nodup_iff]
  · intro module hmem
    exact count_soughtPath hmodules hfiles hmem

theorem module_files_of_run_reaction :
    (run emptiedSite [reactionRecord]).result = .ok (reactionGraph [] "") ∧
      ((run emptiedSite [reactionRecord]).files.map (·.path)).Nodup ∧
      ∃ modules, declaredModules (reactionGraph [] "") = .ok modules ∧
        ∀ module ∈ modules,
          ((run emptiedSite [reactionRecord]).files.map (·.path)).count module.soughtPath =
            if module.raw then if String.ofList module.text = "mod" then 1 else 0
            else modules.count module := by
  obtain ⟨modules, list, hmodules, -, -, -, -, hpaths, hnodup, hcounts⟩ :=
    module_files_of_run result_reaction
  have hnames : modules.Nodup := hnodup.2 (by decide +kernel)
  exact ⟨result_reaction, hpaths.2 hnames, modules, hmodules, hcounts⟩

def bareDocument (name : String) : Conversion where
  name
  url := "/reference/emoji"
  needs := []
  script := [.undocumented []]

def bareGraph : SymbolGraph where
  documents := [⟨"type", []⟩, ⟨"userName", []⟩, ⟨"user_name", []⟩]
  shared := []
  memberships := []

theorem result_bareDocuments :
    (run emptiedSite (["type", "userName", "user_name"].map bareDocument)).result =
      .ok bareGraph := by
  have hsorted : sortByText DocumentSymbols.document bareGraph.documents =
      bareGraph.documents := by
    apply List.mergeSort_of_pairwise
    decide +kernel
  have hdocuments :
      (recordedFrom {} (["type", "userName", "user_name"].map bareDocument)).filterMap
        Reading.symbols? = bareGraph.documents := rfl
  apply result_of_asRecorded
  · rw [List.forall_mem_map]
    exact fun name _ => undocumented_asRecorded rfl rfl
  · rfl
  · rw [hdocuments, Registry.finalize, hsorted]
    decide +kernel
  · decide +kernel

/-- Three documents of different names: two of them have one file and are declared under
one name, and the module of the third is declared but its file cannot be found. -/
theorem module_files_clash :
    ["type", "userName", "user_name"].Nodup ∧
      (run emptiedSite (["type", "userName", "user_name"].map bareDocument)).result =
        .ok bareGraph ∧
      (run emptiedSite (["type", "userName", "user_name"].map bareDocument)).files.map
        (·.path) =
        ["r#type.rs", "user_name.rs", "user_name.rs", "global.rs", "mod.rs"] ∧
      (declaredModules bareGraph).map (·.map fun module => String.ofList module.written) =
        .ok ["global", "r#type", "user_name", "user_name"] := by
  obtain ⟨-, -, hfiles⟩ := ends_of_result result_bareDocuments
  obtain ⟨idents, hidents, hpaths⟩ := paths_of_attempts hfiles
  have hnames : moduleIdents (bareGraph.documents.map (·.document)) =
      .ok [⟨"type".toList, true⟩, ⟨"user_name".toList, false⟩,
        ⟨"user_name".toList, false⟩] := by
    decide +kernel
  obtain rfl := Except.ok.inj (hnames.symm.trans hidents)
  refine ⟨by decide, result_bareDocuments, ?_, ?_⟩
  · rw [hpaths]
    decide
  · decide +kernel

end DocContract
