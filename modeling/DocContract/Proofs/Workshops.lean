import DocContract.Proofs.GrowingTables
import Mathlib.Logic.Function.Basic

/-!
# Workshops

A workshop is what any number of builders work on together: the registry that they share,
and a table for each of them.  Unlike in a session, a document can have several builders,
one after the other or side by side.  However the builders take turns, and whether their
steps are accepted or refused, every table is well formed and nothing is ever taken out of
it.
-/

namespace DocContract

open Relation (ReflTransGen)

/-- A builder of a document. -/
structure Builder where
  document : String
  /-- Which of the builders of the document it is. -/
  number : Nat
deriving DecidableEq

/-- A schema under construction by any number of builders. -/
structure Workshop where
  registry : Registry := {}
  tables : Builder → SymbolTable := fun _ => []

/-- Something that is done in a workshop. -/
inductive Act where
  | build (builder : Builder) (step : BuildStep)
  /-- A step is taken on the registry itself. -/
  | direct (step : RegistryStep)

namespace Workshop

/-- A builder sees the registry and its own table; what it is answered is left to it. -/
def take (workshop : Workshop) : Act → Workshop
  | .build builder step =>
    let state := { registry := workshop.registry, symbols := workshop.tables builder }
    let after := (step.run builder.document state).2
    { registry := after.registry
      tables := Function.update workshop.tables builder after.symbols }
  | .direct step => { workshop with registry := (step.run workshop.registry).2 }

def run (workshop : Workshop) (acts : List Act) : Workshop :=
  acts.foldl take workshop

theorem run_cons (workshop : Workshop) (act : Act) (acts : List Act) :
    workshop.run (act :: acts) = (workshop.take act).run acts := rfl

/-- The workshop in which all this has been done, from the beginning. -/
def after (history : List Act) : Workshop :=
  ({} : Workshop).run history

structure WellFormed (workshop : Workshop) : Prop where
  shared : workshop.registry.symbols.WellFormed
  own : ∀ builder, (workshop.tables builder).WellFormed

structure Grows (before after : Workshop) : Prop where
  shared : before.registry.symbols.Grows after.registry.symbols
  own : ∀ builder, (before.tables builder).Grows (after.tables builder)

structure Develops (before after : Workshop) : Prop where
  registry : ReflTransGen Registry.Change before.registry after.registry
  tables : ∀ builder, ReflTransGen SymbolTable.Change (before.tables builder)
    (after.tables builder)

theorem Develops.trans {a b c : Workshop} (hab : a.Develops b) (hbc : b.Develops c) :
    a.Develops c := by
  constructor
  · exact hab.registry.trans hbc.registry
  · exact fun builder => (hab.tables builder).trans (hbc.tables builder)

theorem develops_take (workshop : Workshop) (act : Act) :
    workshop.Develops (workshop.take act) := by
  cases act with
  | build builder step =>
      have hdevelops := step.develops_run builder.document
        { registry := workshop.registry, symbols := workshop.tables builder }
      constructor
      · exact hdevelops.1
      · intro other
        simp only [take]
        by_cases hsame : other = builder
        · subst hsame
          rw [Function.update_self]
          exact hdevelops.2
        · rw [Function.update_of_ne hsame]
  | direct step =>
      constructor
      · exact step.changes_run workshop.registry
      · exact fun builder => .refl

theorem develops_run (workshop : Workshop) (acts : List Act) :
    workshop.Develops (workshop.run acts) := by
  induction acts generalizing workshop with
  | nil => exact ⟨.refl, fun _ => .refl⟩
  | cons act acts ih =>
      have hact : workshop.Develops (workshop.take act) := workshop.develops_take act
      rw [run_cons]
      exact hact.trans (ih (workshop.take act))

theorem Develops.grows {before after : Workshop} (hdevelops : before.Develops after) :
    before.Grows after := by
  constructor
  · exact SymbolTable.grows_of_changes (Registry.symbols_changes hdevelops.registry)
  · exact fun builder => SymbolTable.grows_of_changes (hdevelops.tables builder)

theorem wellFormed_after (history : List Act) : (after history).WellFormed := by
  have hdevelops : ({} : Workshop).Develops (after history) := develops_run {} history
  constructor
  · exact SymbolTable.wellFormed_of_changes (Registry.symbols_changes hdevelops.registry)
  · exact fun builder => SymbolTable.wellFormed_of_changes (hdevelops.tables builder)

end Workshop

/-- After any history every table is well formed, and by any further acts, one or many,
every table grows: names are only appended, symbols and fields keep their outlines, and of
a comment and the values of a discriminator nothing is lost. -/
theorem tables_wellFormed_and_grow (history : List Act) :
    (Workshop.after history).WellFormed ∧
      ∀ acts, (Workshop.after history).Grows ((Workshop.after history).run acts) := by
  refine ⟨Workshop.wellFormed_after history, fun acts => ?_⟩
  exact ((Workshop.after history).develops_run acts).grows

end DocContract
