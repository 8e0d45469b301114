import DocContract.Proofs.AlikeSchemas
import DocContract.Proofs.Schedules

/-!
# Independence of the schedule

Documents that keep to their plans build the same schema under every schedule: if the steps
are accepted under one they are accepted under all, and the finished schemas differ in the
order of fields and in the comments that were kept at most.  Where one document gives a
shared symbol its fields and its comment, the symbol is the same to the letter.
-/

namespace DocContract

/-- A step gives a shared symbol a field or a comment. -/
def BuildStep.Shapes (name : String) (step : BuildStep) : Prop :=
  step.sharedTarget? = some name ∨
    ∃ symbol, step.sharedSymbol? = some symbol ∧ symbol.name = name ∧ symbol.comment ≠ ""

/-- Every shared symbol has its fields and its comment from one document. -/
def SoleSource (plans : List Plan) : Prop :=
  ∀ name, ∃ document, ∀ plan ∈ plans, ∀ step ∈ plan.steps,
    step.Shapes name → plan.document = document

def Session.finish (session : Session) (plans : List Plan) :
    Except SchemaError SymbolGraph :=
  session.registry.finalize
    (plans.map fun plan =>
      { document := plan.document, symbols := session.tables plan.document })

/-- A symbol as it is declared, without a comment. -/
def Symbol.bare (symbol : Symbol) : Symbol :=
  symbol.outline.withFields symbol.seed

@[simp] theorem Symbol.bare_outline (symbol : Symbol) :
    symbol.bare.outline = symbol.outline := by
  cases symbol <;> rfl

@[simp] theorem Symbol.bare_comment (symbol : Symbol) : symbol.bare.comment = "" := by
  cases symbol <;> rfl

@[simp] theorem Symbol.bare_fields (symbol : Symbol) :
    symbol.bare.fields = symbol.seed := by
  cases symbol <;> rfl

theorem Symbol.adoptComment_bare
    {symbol other : Symbol} (houtline : symbol.outline = other.outline)
    (hseed : symbol.fields = symbol.seed) : other.bare.adoptComment symbol = symbol := by
  have hbare : other.bare.outline = symbol.outline := by rw [bare_outline, houtline]
  refine eq_of_outline_eq ?_ ?_ ?_
  · rw [adoptComment_outline, hbare]
  · rw [adoptComment_comment (kind_eq_of_outline_eq hbare), bare_comment, if_pos rfl]
  · rw [adoptComment_fields, bare_fields, ← seed_eq_of_outline_eq houtline, hseed]

theorem Symbol.adoptComment_of_blank
    {symbol offered : Symbol} (hblank : offered.comment = "") :
    symbol.adoptComment offered = symbol := by
  have hkept : ∀ current : String, keptComment current "" = current := by
    intro current
    rw [keptComment_eq]
    split
    · next hcurrent => exact hcurrent.symm
    · rfl
  cases symbol <;> cases offered <;> simp_all [adoptComment, comment]

namespace Contribution

/-- Whether a contribution gives the symbol with a name a field or a comment. -/
def shapes (name : String) : Contribution → Bool
  | declare symbol => symbol.name == name && symbol.comment != ""
  | extend target _ => target == name
  | _ => false

theorem cell_of_not_shapes
    {contribution : Contribution} {name : String}
    (hshapes : contribution.shapes name = false)
    (symbol : Symbol) : contribution.cell name (some symbol) = some symbol := by
  cases contribution with
  | declare offered =>
      by_cases hname : offered.name = name
      · have hblank : offered.comment = "" := by simpa [shapes, hname] using hshapes
        simp [cell, hname, Symbol.redeclared, Symbol.adoptComment_of_blank hblank]
      · simp [cell, hname]
  | constant value =>
      have hblank : (Symbol.literal { name := literalName value, value }).comment =
        "" := rfl
      simp [cell, Symbol.redeclared, Symbol.adoptComment_of_blank hblank]
  | extend target field => simp_all [shapes, cell]
  | register => rfl
  | check => rfl

theorem exists_cell_some (contribution : Contribution) (name : String) (symbol : Symbol) :
    ∃ after, contribution.cell name (some symbol) = some after := by
  cases contribution <;> simp only [cell] <;> first
    | exact ⟨_, rfl⟩
    | split <;> exact ⟨_, rfl⟩

/-- Once a symbol is declared, only what shapes it counts. -/
theorem foldl_cell_filter (name : String) (contributions : List Contribution)
    (symbol : Symbol) :
    contributions.foldl (cell name) (some symbol) =
      (contributions.filter (shapes name)).foldl (cell name) (some symbol) := by
  induction contributions generalizing symbol with
  | nil => rfl
  | cons first later ih =>
      obtain ⟨after, hafter⟩ := first.exists_cell_some name symbol
      cases hshapes : first.shapes name with
      | true =>
          rw [List.filter_cons_of_pos hshapes, List.foldl_cons,
            List.foldl_cons, hafter, ih]
      | false =>
          rw [List.filter_cons_of_neg (by simp [hshapes]), List.foldl_cons,
            cell_of_not_shapes hshapes, ih]

/-- The first declaration of a symbol makes no difference but by its comment. -/
theorem foldl_cell_bare
    {past contributions : List Contribution} {symbol : Symbol}
    (htargets : TargetsDeclared past contributions)
    (hnew : ∀ other, Declared past other → other.name ≠ symbol.name)
    (halike : ∀ other, Declared contributions other → other.name = symbol.name →
      other.outline = symbol.outline ∧ other.fields = other.seed)
    (hdeclared : ∃ other, Declared contributions other ∧ other.name = symbol.name) :
    contributions.foldl (cell symbol.name) none =
      contributions.foldl (cell symbol.name) (some symbol.bare) := by
  induction contributions generalizing past with
  | nil => simp [Declared] at hdeclared
  | cons first later ih =>
      rw [List.foldl_cons, List.foldl_cons]
      by_cases hsymbol : ∃ other, first.symbol? = some other ∧ other.name = symbol.name
      · obtain ⟨other, hfirst, hname⟩ := hsymbol
        obtain ⟨houtline, hseed⟩ := halike other ⟨first, List.mem_cons_self, hfirst⟩ hname
        rw [cell_of_symbol? hfirst, cell_of_symbol? hfirst, if_pos hname, if_pos hname]
        simp [Symbol.redeclared, Symbol.adoptComment_bare houtline hseed]
      · push Not at hsymbol
        -- A field would need its target declared, and nothing has declared the symbol so
        -- far.
        have hfield : ∀ field, first ≠ extend symbol.name field := by
          intro field hextend
          obtain ⟨other, hother, hname⟩ := htargets.1 _ field hextend
          exact hnew other hother hname
        rw [cell_of_unrelated hsymbol hfield, cell_of_unrelated hsymbol hfield]
        refine ih htargets.2 ?_ ?_ ?_
        · intro other hother
          rw [declared_append_iff, declared_singleton_iff] at hother
          exact hother.elim (hnew other) (hsymbol other)
        · exact fun other hother => halike other
            (hother.mono fun c => List.mem_cons_of_mem first)
        · obtain ⟨other, ⟨c, hc, hother⟩, hname⟩ := hdeclared
          rcases List.mem_cons.1 hc with rfl | hc
          · exact (hsymbol other hother hname).elim
          · exact ⟨other, ⟨c, hc, hother⟩, hname⟩

end Contribution

theorem BuildStep.shapes_of_mem_contributions
    {document name : String} {step : BuildStep} {contribution : Contribution}
    (hmem : contribution ∈ step.contributions document)
    (hshapes : contribution.shapes name = true) : step.Shapes name := by
  cases contribution with
  | declare symbol =>
      simp only [Contribution.shapes, Bool.and_eq_true, beq_iff_eq, bne_iff_ne] at hshapes
      exact Or.inr ⟨symbol,
        (declared_contributions_iff _ symbol).1 ⟨_, hmem, rfl⟩, hshapes⟩
  | extend target field =>
      simp only [Contribution.shapes, beq_iff_eq] at hshapes
      exact Or.inl (hshapes ▸ sharedTarget?_of_extend_mem hmem)
  | constant => simp [Contribution.shapes] at hshapes
  | register => simp [Contribution.shapes] at hshapes
  | check => simp [Contribution.shapes] at hshapes

/-- What shapes a symbol comes in the order of the one document that it comes from. -/
theorem filter_shapes_eq
    {schedule : List Turn} {document name : String}
    (hsole : ∀ turn ∈ schedule, turn.step.Shapes name → turn.document = document) :
    (schedule.flatMap Turn.contributions).filter (Contribution.shapes name) =
      ((stepsOf document schedule).flatMap (BuildStep.contributions document)).filter
        (Contribution.shapes name) := by
  induction schedule with
  | nil => rfl
  | cons turn later ih =>
      rw [List.forall_mem_cons] at hsole
      rw [List.flatMap_cons, List.filter_append, ih hsole.2]
      by_cases hturn : document = turn.document
      · subst hturn
        rw [stepsOf_cons_self, List.flatMap_cons, List.filter_append]
        rfl
      · have hnone : turn.contributions.filter (Contribution.shapes name) = [] := by
          refine List.filter_eq_nil_iff.2 fun contribution hmem hshapes => hturn ?_
          exact (hsole.1 (BuildStep.shapes_of_mem_contributions hmem hshapes)).symm
        rw [hnone, stepsOf_cons_of_ne hturn, List.nil_append]

/-! ## Two schedules of the same plans -/

section Independence

variable {plans : List Plan} {first second : List Turn}

theorem Interleaves.wellFormed (schedule : List Turn) :
    ∀ contribution ∈ schedule.flatMap Turn.contributions, contribution.WellFormed := by
  intro contribution hmem
  obtain ⟨turn, -, hcontributed⟩ := List.mem_flatMap.1 hmem
  exact BuildStep.wellFormed_of_mem_contributions hcontributed

theorem Interleaves.gathers
    (hschedule : Interleaves plans first) (hkeys : KeysAgree plans)
    {session : Session} (hplay : Session.play {} first = .ok session) :
    session.registry.Gathers (first.flatMap Turn.contributions) :=
  Registry.gathers_empty.runAll (wellFormed first) (hschedule.agree hkeys)
    ((Session.play_eq_ok_iff first).1 hplay).1

/-- What is accepted under one schedule is accepted under every other. -/
theorem Interleaves.exists_play
    (hfirst : Interleaves plans first) (hsecond : Interleaves plans second)
    (hdeclares : ∀ plan ∈ plans, DeclaresFirst plan.steps) (hkeys : KeysAgree plans)
    {session : Session} (hplay : Session.play {} first = .ok session) :
    ∃ other, Session.play {} second = .ok other ∧ other.tables = session.tables := by
  have hharmony : Contribution.Harmonious (second.flatMap Turn.contributions) :=
    (hfirst.gathers hkeys hplay).harmonious.mono
      fun c => (hfirst.mem_contributions_iff hsecond c).2
  obtain ⟨registry, hregistry⟩ := Registry.gathers_empty.exists_runAll (wellFormed second)
    (hsecond.agree hkeys) hharmony (hsecond.targetsDeclared hdeclares)
  refine ⟨{ registry, tables := session.tables },
    (Session.play_eq_ok_iff second).2 ⟨hregistry, fun document => ?_⟩, rfl⟩
  rw [← hfirst.stepsOf_eq hsecond]
  exact ((Session.play_eq_ok_iff first).1 hplay).2 document

/-- A schedule leaves of a shared symbol what the steps of its one source make of it, bare
as any document declares it. -/
theorem Interleaves.get?_eq_foldl
    (hschedule : Interleaves plans first)
    (hdeclares : ∀ plan ∈ plans, DeclaresFirst plan.steps)
    {session : Session} (hplay : Session.play {} first = .ok session)
    {symbol : Symbol} (hsymbol : symbol.Gathers (first.flatMap Turn.contributions))
    {document : String} (hdocument : ∀ plan ∈ plans, ∀ step ∈ plan.steps,
      step.Shapes symbol.name → plan.document = document) :
    session.registry.symbols.get? symbol.name =
      (((stepsOf document first).flatMap (BuildStep.contributions document)).filter
        (Contribution.shapes symbol.name)).foldl (Contribution.cell symbol.name)
          (some symbol.bare) := by
  rw [Contribution.get?_of_runAll ((Session.play_eq_ok_iff first).1 hplay).1]
  change (first.flatMap Turn.contributions).foldl _ none = _
  rw [Contribution.foldl_cell_bare (hschedule.targetsDeclared hdeclares) (by
      simp [Contribution.Declared]) ?_ hsymbol.declared,
    Contribution.foldl_cell_filter, filter_shapes_eq]
  · intro turn hturn hshapes
    obtain ⟨plan, hplan, hsame, hstep⟩ := (hschedule.mem_iff turn).1 hturn
    rw [← hsame]
    exact hdocument plan hplan _ hstep hshapes
  · intro declared hdeclared hname
    obtain ⟨contribution, hmem, hdeclares⟩ := hdeclared
    exact ⟨hsymbol.outline_eq declared ⟨contribution, hmem, hdeclares⟩ hname,
      (wellFormed first contribution hmem).fields_eq_seed hdeclares⟩

/-- A symbol that has its fields and its comment from one document is the same under every
schedule. -/
theorem Interleaves.get?_eq
    (hfirst : Interleaves plans first) (hsecond : Interleaves plans second)
    (hdeclares : ∀ plan ∈ plans, DeclaresFirst plan.steps) (hkeys : KeysAgree plans)
    (hsole : SoleSource plans) {session other : Session}
    (hplay : Session.play {} first = .ok session)
    (hplay' : Session.play {} second = .ok other)
    (name : String) :
    session.registry.symbols.get? name = other.registry.symbols.get? name := by
  have hgathers := hfirst.gathers hkeys hplay
  have hgathers' := hsecond.gathers hkeys hplay'
  have halike := hgathers.alike hgathers' (hfirst.mem_contributions_iff hsecond)
  cases hget : session.registry.symbols.get? name with
  | none =>
      rw [SymbolTable.get?_eq_none_iff, halike.names, ← SymbolTable.get?_eq_none_iff]
        at hget
      exact hget.symm
  | some symbol =>
      obtain rfl : symbol.name = name := (SymbolTable.mem_of_get? hget).2
      obtain ⟨document, hdocument⟩ := hsole symbol.name
      have hsymbol := hgathers.symbol_gathers _ symbol hget
      obtain ⟨declared, hdeclared, hname⟩ := hsymbol.declared
      obtain ⟨existing, hget', hexisting, houtline⟩ := hgathers'.get?_of_declared
        (hdeclared.mono fun c => (hfirst.mem_contributions_iff hsecond c).1)
      have hsame : existing.outline = symbol.outline :=
        houtline.symm.trans (hsymbol.outline_eq declared hdeclared hname)
      have hread := hsecond.get?_eq_foldl hdeclares hplay' hexisting
        (Symbol.name_eq_of_outline_eq hsame ▸ hdocument)
      have hbare : existing.bare = symbol.bare := by
        rw [Symbol.bare, Symbol.bare, hsame, Symbol.seed_eq_of_outline_eq hsame]
      rw [← hget, hfirst.get?_eq_foldl hdeclares hplay hsymbol hdocument,
        hfirst.stepsOf_eq hsecond, ← hbare, ← Symbol.name_eq_of_outline_eq hsame, hread]

theorem Session.namesDistinct_of_play
    {schedule : List Turn} {session : Session}
    (hplay : Session.play {} schedule = .ok session)
    (hnames : (plans.map Plan.document).Nodup) :
    NamesDistinct session.registry
      (plans.map fun plan =>
        { document := plan.document, symbols := session.tables plan.document }) := by
  have hreach := Session.Reachable.start.play hplay
  refine Registry.Reachable.namesDistinct ⟨session, hreach, rfl⟩ ?_ ?_
  · intro document hdocument
    obtain ⟨plan, -, rfl⟩ := List.mem_map.1 hdocument
    exact ⟨session, hreach, rfl⟩
  · rw [List.map_map]
    exact hnames

/-- Documents build the same schema under every schedule that keeps to their plans. -/
theorem schedule_independence
    (hnames : (plans.map Plan.document).Nodup)
    (hdeclares : ∀ plan ∈ plans, DeclaresFirst plan.steps) (hkeys : KeysAgree plans)
    (hfirst : Interleaves plans first) (hsecond : Interleaves plans second)
    {session : Session} (hplay : Session.play {} first = .ok session) :
    ∃ other, Session.play {} second = .ok other ∧
      ((∃ graph, session.finish plans = .ok graph) ↔
        ∃ graph, other.finish plans = .ok graph) ∧
      ∀ graph graph', session.finish plans = .ok graph → other.finish plans = .ok graph' →
        graph.Alike graph' ∧ (SoleSource plans → graph = graph') := by
  obtain ⟨other, hplay', htables⟩ := hfirst.exists_play hsecond hdeclares hkeys hplay
  have hdistinct := Session.namesDistinct_of_play hplay hnames
  have hdistinct' := Session.namesDistinct_of_play hplay' hnames
  have halike : session.registry.Alike other.registry :=
    (hfirst.gathers hkeys hplay).alike (hsecond.gathers hkeys hplay')
      (hfirst.mem_contributions_iff hsecond)
  have hfinish : other.finish plans =
      other.registry.finalize (plans.map fun plan =>
        { document := plan.document, symbols := session.tables plan.document }) := by
    rw [Session.finish, htables]
  rw [htables] at hdistinct'
  refine ⟨other, hplay', ?_, ?_⟩
  · rw [hfinish]
    exact halike.exists_finalize_iff hdistinct hdistinct'
  · intro graph graph' hgraph hgraph'
    rw [hfinish] at hgraph'
    exact ⟨halike.graph_alike hdistinct.shared_nodup hdistinct'.shared_nodup
      hgraph hgraph',
      fun hsole => halike.graph_eq hdistinct.shared_nodup hdistinct'.shared_nodup
        (hfirst.get?_eq hsecond hdeclares hkeys hsole hplay hplay') hgraph hgraph'⟩

end Independence

/-- Two documents describe the same record, each with a field of its own. -/
def iconPlans : List Plan :=
  [{ document := "emoji"
     steps :=
      [.addSharedRecord "Icon" "An icon.",
       .addField ⟨"Icon", .shared⟩ ⟨"type", "string", "The kind.", ""⟩ .string
        [.discriminatorValue "emoji"],
       .addField ⟨"Icon", .shared⟩ ⟨"emoji", "string", "", ""⟩ .string [.optional]] },
   { document := "file"
     steps :=
      [.addSharedRecord "Icon" "A page icon.",
       .addField ⟨"Icon", .shared⟩ ⟨"file", "string", "", ""⟩ .string [.optional],
       .addField ⟨"Icon", .shared⟩ ⟨"type", "string", "", ""⟩ .string
        [.discriminatorValue "file"]] }]

/-- One document after the other. -/
def iconsInSequence : List Turn :=
  iconPlans.flatMap fun plan => plan.steps.map fun step => ⟨plan.document, step⟩

/-- The same steps, with the last document first. -/
def iconsReversed : List Turn :=
  iconPlans.reverse.flatMap fun plan => plan.steps.map fun step => ⟨plan.document, step⟩

theorem declaresFirst_cons
    {step : BuildStep} {steps : List BuildStep} {symbol : Symbol}
    (hsymbol : step.sharedSymbol? = some symbol) (htarget : step.sharedTarget? = none)
    (hsteps : ∀ later ∈ steps, later.sharedTarget? = some symbol.name) :
    DeclaresFirst (step :: steps) := by
  intro before later after target hsplit hlater
  cases before with
  | nil =>
      rw [← (List.cons.inj hsplit).1, htarget] at hlater
      contradiction
  | cons first before =>
      obtain ⟨rfl, rfl⟩ := List.cons.inj hsplit
      rw [hsteps later (by simp), Option.some.injEq] at hlater
      exact ⟨step, List.mem_cons_self, symbol, hsymbol, hlater⟩

theorem exists_finish_icons :
    ∃ session, Session.play {} iconsInSequence = .ok session ∧
      ∃ graph, session.finish iconPlans = .ok graph := by
  obtain ⟨session, hplay, record, hregistry, hfields, htables⟩ :
      ∃ session, Session.play {} iconsInSequence = .ok session ∧
        ∃ record, session.registry = { symbols := [.record record] } ∧
          (∀ field ∈ record.fields, field.type = .string) ∧
          ∀ plan ∈ iconPlans, session.tables plan.document = [] := by
    refine ⟨_, rfl, _, rfl, by decide, ?_⟩
    simp only [iconPlans, List.forall_mem_cons]
    exact ⟨rfl, rfl, by simp⟩
  refine ⟨session, hplay, ?_⟩
  have hknows : ∀ symbol, session.registry.Knows
      (iconPlans.map fun plan =>
        { document := plan.document, symbols := session.tables plan.document }) symbol →
      symbol = .record record := by
    rintro symbol (hshared | ⟨document, hdocument, hown⟩)
    · rw [hregistry] at hshared
      exact List.mem_singleton.1 hshared
    · obtain ⟨plan, hplan, rfl⟩ := List.mem_map.1 hdocument
      simp [htables plan hplan] at hown
  rw [Session.finish,
    Registry.exists_finalize_iff (Session.namesDistinct_of_play hplay (by decide))]
  constructor
  · intro union hunion
    have hkind := hknows _ hunion
    contradiction
  · intro symbol hsymbol field hfield name hname
    obtain rfl := hknows symbol hsymbol
    simp [hfields field hfield, TypeRef.referencedNames] at hname
  · simp [hregistry]
  · simp [hregistry]

theorem schedule_independence_icons :
    ∃ session other graph graph',
      Session.play {} iconsInSequence = .ok session ∧
        Session.play {} iconsReversed = .ok other ∧
        session.finish iconPlans = .ok graph ∧ other.finish iconPlans = .ok graph' ∧
        graph.Alike graph' := by
  have hdeclares : ∀ plan ∈ iconPlans, DeclaresFirst plan.steps := by
    intro plan hplan
    simp only [iconPlans, List.mem_cons, List.not_mem_nil, or_false] at hplan
    rcases hplan with rfl | rfl
    · exact declaresFirst_cons rfl rfl (by
        simp [BuildStep.sharedTarget?, Symbol.emptyRecord, Symbol.name])
    · exact declaresFirst_cons rfl rfl (by
        simp [BuildStep.sharedTarget?, Symbol.emptyRecord, Symbol.name])
  have hkeys : KeysAgree iconPlans := by
    simp [KeysAgree, iconPlans, BuildStep.sharedUnion?]
  have hfirst : Interleaves iconPlans iconsInSequence := by
    constructor <;> simp [iconPlans, iconsInSequence, stepsOf]
  have hsecond : Interleaves iconPlans iconsReversed := by
    constructor <;> simp [iconPlans, iconsReversed, stepsOf]
  obtain ⟨session, hplay, graph, hgraph⟩ := exists_finish_icons
  obtain ⟨other, hplay', hfinish, halike⟩ :=
    schedule_independence (by decide) hdeclares hkeys hfirst hsecond hplay
  obtain ⟨graph', hgraph'⟩ := hfinish.1 ⟨graph, hgraph⟩
  exact ⟨session, other, graph, graph', hplay, hplay', hgraph, hgraph',
    (halike graph graph' hgraph hgraph').1⟩

end DocContract
