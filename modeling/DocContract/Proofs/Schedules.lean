import DocContract.Proofs.GatheredRegistries

/-!
# Schedules

Every document has a plan: the steps that it takes, in order.  A schedule lets the
documents take their steps in turns.  A schedule that is played to its end is two things
side by side: the contributions of all turns to what is shared, and for each document its
own steps on its own table.
-/

namespace DocContract

/-- The steps that a document takes. -/
structure Plan where
  document : String
  steps : List BuildStep

/-- A step of a document, when its turn has come. -/
structure Turn where
  document : String
  step : BuildStep

def stepsOf (document : String) (schedule : List Turn) : List BuildStep :=
  (schedule.filter (·.document = document)).map Turn.step

/-- A schedule lets every document take the steps of its plan in order, and no other
steps. -/
structure Interleaves (plans : List Plan) (schedule : List Turn) : Prop where
  planned : ∀ turn ∈ schedule, ∃ plan ∈ plans, plan.document = turn.document
  in_order : ∀ plan ∈ plans, stepsOf plan.document schedule = plan.steps

/-- A document declares a shared symbol before it adds fields to it. -/
def DeclaresFirst (steps : List BuildStep) : Prop :=
  ∀ before step after target,
    steps = before ++ step :: after → step.sharedTarget? = some target →
      ∃ earlier ∈ before, ∃ symbol, earlier.sharedSymbol? = some symbol ∧
        symbol.name = target

/-- A shared union is declared with one key only. -/
def KeysAgree (plans : List Plan) : Prop :=
  ∀ p ∈ plans, ∀ q ∈ plans, ∀ s ∈ p.steps, ∀ t ∈ q.steps, ∀ name key key',
    s.sharedUnion? = some (name, key) → t.sharedUnion? = some (name, key') → key = key'

/-- What a turn contributes to the registry. -/
def Turn.contributions (turn : Turn) : List Contribution :=
  turn.step.contributions turn.document

/-- Plays a schedule up to the first step that is refused. -/
def Session.play : Session → List Turn → Except SchemaError Session
  | session, [] => .ok session
  | session, turn :: later =>
    match session.build turn.document turn.step with
    | (.ok _, session) => play session later
    | (.error fault, _) => .error fault

theorem stepsOf_append (document : String) (earlier later : List Turn) :
    stepsOf document (earlier ++ later) = stepsOf document earlier ++
      stepsOf document later := by
  simp [stepsOf]

theorem stepsOf_cons_self (turn : Turn) (later : List Turn) :
    stepsOf turn.document (turn :: later) = turn.step :: stepsOf turn.document later := by
  simp [stepsOf]

theorem stepsOf_cons_of_ne
    {turn : Turn} {document : String} (hother : document ≠ turn.document)
    (later : List Turn) :
    stepsOf document (turn :: later) = stepsOf document later := by
  simp [stepsOf, hother.symm]

theorem mem_stepsOf_iff (document : String) (schedule : List Turn) (step : BuildStep) :
    step ∈ stepsOf document schedule ↔ ⟨document, step⟩ ∈ schedule := by
  unfold stepsOf
  rw [List.mem_map]
  constructor
  · rintro ⟨turn, hturn, rfl⟩
    rw [List.mem_filter, decide_eq_true_iff] at hturn
    exact hturn.2 ▸ hturn.1
  · exact fun hmem => ⟨_, List.mem_filter.2 ⟨hmem, by simp⟩, rfl⟩

section Interleavings

variable {plans : List Plan} {schedule first second : List Turn}

theorem Interleaves.mem_iff (hschedule : Interleaves plans schedule) (turn : Turn) :
    turn ∈ schedule ↔ ∃ plan ∈ plans, plan.document = turn.document ∧
      turn.step ∈ plan.steps := by
  constructor
  · intro hturn
    obtain ⟨plan, hplan, hdocument⟩ := hschedule.planned turn hturn
    refine ⟨plan, hplan, hdocument, ?_⟩
    rw [← hschedule.in_order plan hplan, hdocument, mem_stepsOf_iff]
    exact hturn
  · rintro ⟨plan, hplan, hdocument, hstep⟩
    rw [← hschedule.in_order plan hplan, hdocument, mem_stepsOf_iff] at hstep
    exact hstep

theorem Interleaves.stepsOf_eq
    (hfirst : Interleaves plans first) (hsecond : Interleaves plans second)
    (document : String) : stepsOf document first = stepsOf document second := by
  by_cases hplanned : ∃ plan ∈ plans, plan.document = document
  · obtain ⟨plan, hplan, rfl⟩ := hplanned
    rw [hfirst.in_order plan hplan, hsecond.in_order plan hplan]
  · have hnone : ∀ {schedule}, Interleaves plans schedule →
        stepsOf document schedule = [] := by
      intro schedule hschedule
      refine List.eq_nil_iff_forall_not_mem.2 fun step hstep => hplanned ?_
      exact hschedule.planned _ ((mem_stepsOf_iff _ _ _).1 hstep)
    rw [hnone hfirst, hnone hsecond]

theorem Interleaves.mem_contributions_iff
    (hfirst : Interleaves plans first) (hsecond : Interleaves plans second)
    (contribution : Contribution) :
    contribution ∈ first.flatMap Turn.contributions ↔
      contribution ∈ second.flatMap Turn.contributions := by
  simp only [List.mem_flatMap, hfirst.mem_iff, hsecond.mem_iff]

end Interleavings

section Playing

variable {session after : Session}

theorem Session.build_leads_iff (document : String) (step : BuildStep) :
    (∃ answer, session.build document step = (.ok answer, after)) ↔
      Contribution.runAll session.registry (step.contributions document) =
        .ok after.registry ∧
        step.own (session.tables document) = .ok (after.tables document) ∧
        ∀ other, other ≠ document → after.tables other = session.tables other := by
  constructor
  · rintro ⟨answer, hbuild⟩
    obtain ⟨haccepted, rfl⟩ := Prod.mk.inj hbuild
    obtain ⟨hshared, hown⟩ :=
      (step.leadsTo_iff document _ _).1 ⟨answer, Prod.ext haccepted rfl⟩
    exact ⟨hshared, by simpa using hown, fun other hother => by simp [hother]⟩
  · rintro ⟨hshared, hown, hothers⟩
    obtain ⟨answer, hrun⟩ :=
      (step.leadsTo_iff document
        { registry := session.registry, symbols := session.tables document }
        { registry := after.registry, symbols := after.tables document }).2
        ⟨hshared, hown⟩
    have htables :
        Function.update session.tables document (after.tables document) =
          after.tables := by
      funext other
      by_cases hother : other = document
      · subst hother
        exact Function.update_self ..
      · rw [Function.update_of_ne hother, hothers other hother]
    exact ⟨answer, by simp [build, hrun, htables]⟩

theorem Session.play_cons_eq_ok_iff (turn : Turn) (later : List Turn) :
    session.play (turn :: later) = .ok after ↔
      ∃ next, (∃ answer, session.build turn.document turn.step = (.ok answer, next)) ∧
        next.play later = .ok after := by
  rw [play]
  split
  · next answer next hbuild => simp [hbuild]
  · next fault next hbuild => simp [hbuild]

theorem BuildStep.ownAll_cons_eq_ok_iff
    (table after : SymbolTable) (step : BuildStep) (later : List BuildStep) :
    ownAll table (step :: later) = .ok after ↔
      ∃ next, step.own table = .ok next ∧ ownAll next later = .ok after := by
  rw [ownAll]
  cases step.own table <;> simp

/-- A schedule is played to its end iff all its contributions are accepted and every
document can take its own steps. -/
theorem Session.play_eq_ok_iff (schedule : List Turn) :
    session.play schedule = .ok after ↔
      Contribution.runAll session.registry (schedule.flatMap Turn.contributions) =
          .ok after.registry ∧
        ∀ document, BuildStep.ownAll (session.tables document)
          (stepsOf document schedule) =
          .ok (after.tables document) := by
  induction schedule generalizing session with
  | nil =>
      simp only [play, stepsOf, List.flatMap_nil, Contribution.runAll_nil, List.filter_nil,
        List.map_nil, BuildStep.ownAll, Except.ok.injEq]
      constructor
      · rintro rfl
        exact ⟨rfl, fun _ => rfl⟩
      · rintro ⟨hregistry, htables⟩
        cases session
        cases after
        simp only [mk.injEq]
        exact ⟨hregistry, funext htables⟩
  | cons turn later ih =>
      simp only [play_cons_eq_ok_iff, build_leads_iff, ih]
      rw [List.flatMap_cons, Contribution.runAll_append_eq_ok_iff]
      constructor
      · rintro ⟨next, ⟨hshared, hown, hothers⟩, hregistry, htables⟩
        refine ⟨⟨next.registry, hshared, hregistry⟩, fun document => ?_⟩
        by_cases hturn : document = turn.document
        · subst hturn
          rw [stepsOf_cons_self, BuildStep.ownAll_cons_eq_ok_iff]
          exact ⟨_, hown, htables turn.document⟩
        · rw [stepsOf_cons_of_ne hturn, ← hothers document hturn]
          exact htables document
      · rintro ⟨⟨between, hshared, hregistry⟩, htables⟩
        have hturn := htables turn.document
        rw [stepsOf_cons_self, BuildStep.ownAll_cons_eq_ok_iff] at hturn
        obtain ⟨table, hown, hlater⟩ := hturn
        -- The turn moves the registry and one table; the other tables have no step to take
        -- in it.
        refine ⟨{ registry := between
                  tables := Function.update session.tables turn.document table },
          ⟨hshared,
           by simpa using hown, fun other hother => Function.update_of_ne hother ..⟩,
          hregistry, fun document => ?_⟩
        by_cases hother : document = turn.document
        · subst hother
          simpa using hlater
        · have htable := htables document
          rw [stepsOf_cons_of_ne hother] at htable
          simpa [hother] using htable

theorem Session.Reachable.play
    (hreach : session.Reachable) {schedule : List Turn}
    (hplay : session.play schedule = .ok after) : after.Reachable := by
  induction schedule generalizing session with
  | nil => exact Except.ok.inj hplay ▸ hreach
  | cons turn later ih =>
      unfold Session.play at hplay
      split at hplay
      · next answer next hbuild =>
        have hnext : (session.take (.build turn.document turn.step)).2 = next :=
          congrArg Prod.snd hbuild
        exact ih (hnext ▸ hreach.step _) hplay
      · contradiction

end Playing

/-! ## What plans promise of contributions -/

theorem Field.values_ascend_withOptions
    (options : List FieldOption) {field : Field}
    (hascend : Ascending textBefore field.discriminatorValues) :
    Ascending textBefore (field.withOptions options).discriminatorValues := by
  unfold withOptions
  induction options generalizing field with
  | nil => exact hascend
  | cons option options ih =>
      refine ih ?_
      cases option with
      | omitEmpty => exact hascend
      | optional => exact hascend
      | typeSpecific => exact hascend
      | discriminatorNotEmpty => exact List.Pairwise.nil
      | discriminatorValue value =>
          have hone : Ascending textBefore [value] := List.pairwise_singleton _ _
          rcases hdiscriminator : field.discriminator with _ | ⟨values | _⟩
          · simpa [withOption, hdiscriminator, discriminatorValues] using hone
          · simp only [withOption, hdiscriminator, discriminatorValues] at hascend ⊢
            exact hascend.insert textBefore_strictlyOrders value
          · simpa [withOption, hdiscriminator, discriminatorValues] using hone

namespace BuildStep

variable {document : String} {step : BuildStep}

theorem wellFormed_of_mem_contributions
    {contribution : Contribution} (hmem : contribution ∈ step.contributions document) :
    contribution.WellFormed := by
  unfold contributions at hmem
  cases step with
  | addSharedRecord name comment =>
      simp only [List.mem_singleton] at hmem
      rw [hmem]
      exact ⟨by simp [Symbol.emptyRecord, Symbol.kind], rfl⟩
  | addSharedClosedUnion name key comment =>
      simp only [List.mem_singleton] at hmem
      rw [hmem]
      exact ⟨by simp [Symbol.emptyClosedUnion, Symbol.kind], rfl⟩
  | addOpenUnion name key =>
      simp only [List.mem_singleton] at hmem
      rw [hmem]
      exact ⟨by simp [Symbol.kind], rfl⟩
  | registerMember union member typeArgument =>
      simp only [List.mem_singleton] at hmem
      rw [hmem]
      trivial
  | addUnmarshalCheck target payload typeArgument =>
      simp only [List.mem_singleton] at hmem
      rw [hmem]
      trivial
  | addField target parameter type options =>
      simp only [List.mem_ite_nil_right, List.mem_singleton] at hmem
      rw [hmem.2]
      exact Field.values_ascend_withOptions options List.Pairwise.nil
  | addLiteralField target parameter =>
      cases hvalue : literalValue? parameter.literalText with
      | none => simp [hvalue] at hmem
      | some value =>
          simp only [hvalue, List.mem_cons, List.mem_ite_nil_right,
            List.not_mem_nil, or_false] at hmem
          rcases hmem with hmem | ⟨-, hmem⟩
          · rw [hmem]
            trivial
          · rw [hmem]
            exact List.Pairwise.nil
  | _ => simp at hmem

/-- A step contributes the declaration of its symbol, and no other declaration. -/
theorem declared_contributions_iff (document : String) (symbol : Symbol) :
    Contribution.Declared (step.contributions document) symbol ↔
      step.sharedSymbol? = some symbol := by
  unfold contributions sharedSymbol?
  cases step with
  | addField target parameter type options =>
      by_cases hscope : target.scope = .shared <;>
        simp [Contribution.Declared, Contribution.symbol?, hscope]
  | addLiteralField target parameter =>
      cases hvalue : literalValue? parameter.literalText <;>
        by_cases hscope : target.scope = .shared <;>
          simp [Contribution.Declared, Contribution.symbol?, hscope,
            hvalue]
  | _ => simp [Contribution.Declared, Contribution.symbol?]

theorem sharedTarget?_of_extend_mem
    {target : String} {field : Field}
    (hmem : .extend target field ∈ step.contributions document) :
    step.sharedTarget? = some target := by
  unfold contributions at hmem
  unfold sharedTarget?
  cases step with
  | addField ref parameter type options =>
      by_cases hscope : ref.scope = .shared <;> simp_all
  | addLiteralField ref parameter =>
      cases hvalue : literalValue? parameter.literalText <;>
        by_cases hscope : ref.scope = .shared <;> simp_all
  | _ => simp at hmem

/-- Apart from its name, the outline of a shared symbol is told by its kind and its key. -/
theorem outline_of_sharedSymbol?
    {symbol : Symbol} (hsymbol : step.sharedSymbol? = some symbol)
    (hkind : symbol.kind ≠ .literal) :
    symbol.outline = .emptyRecord symbol.name "" none ∨
      ∃ key, step.sharedUnion? = some (symbol.name, key) ∧
        (symbol.outline = .closedUnion ⟨symbol.name, "", key, []⟩ ∨
          symbol.outline = .openUnion ⟨symbol.name, "", key⟩) := by
  cases step with
  | addSharedRecord name comment =>
      simp only [sharedSymbol?, Option.some.injEq] at hsymbol
      rw [← hsymbol]
      exact Or.inl rfl
  | addSharedClosedUnion name key comment =>
      simp only [sharedSymbol?, Option.some.injEq] at hsymbol
      rw [← hsymbol]
      exact Or.inr ⟨key, rfl, Or.inl rfl⟩
  | addOpenUnion name key =>
      simp only [sharedSymbol?, Option.some.injEq] at hsymbol
      rw [← hsymbol]
      exact Or.inr ⟨key, rfl, Or.inr rfl⟩
  | addLiteralField target parameter =>
      simp only [sharedSymbol?, Option.map_eq_some_iff] at hsymbol
      obtain ⟨value, -, hliteral⟩ := hsymbol
      exact (hkind (hliteral ▸ rfl)).elim
  | _ => simp [sharedSymbol?] at hsymbol

end BuildStep

section Promises

variable {plans : List Plan} {schedule : List Turn}

theorem declared_flatMap_iff (turns : List Turn) (symbol : Symbol) :
    Contribution.Declared (turns.flatMap Turn.contributions) symbol ↔
      ∃ turn ∈ turns, turn.step.sharedSymbol? = some symbol := by
  constructor
  · rintro ⟨contribution, hmem, hsymbol⟩
    obtain ⟨turn, hturn, hcontributed⟩ := List.mem_flatMap.1 hmem
    exact ⟨turn, hturn,
      (BuildStep.declared_contributions_iff _ symbol).1
        ⟨contribution, hcontributed, hsymbol⟩⟩
  · rintro ⟨turn, hturn, hsymbol⟩
    obtain ⟨contribution, hcontributed, hdeclares⟩ :=
      (BuildStep.declared_contributions_iff turn.document symbol).2 hsymbol
    exact ⟨contribution, List.mem_flatMap.2 ⟨turn, hturn, hcontributed⟩, hdeclares⟩

/-- Documents whose keys agree declare a shared symbol alike. -/
theorem Interleaves.agree
    (hschedule : Interleaves plans schedule) (hkeys : KeysAgree plans) :
    Contribution.Agree (schedule.flatMap Turn.contributions) := by
  intro a b ha hb hname hkind hnot
  obtain ⟨turn, hturn, hdeclares⟩ := (declared_flatMap_iff _ _).1 ha
  obtain ⟨turn', hturn', hdeclares'⟩ := (declared_flatMap_iff _ _).1 hb
  obtain ⟨p, hp, -, hs⟩ := (hschedule.mem_iff turn).1 hturn
  obtain ⟨q, hq, -, ht⟩ := (hschedule.mem_iff turn').1 hturn'
  have hkinds : a.outline.kind = b.outline.kind := by
    rw [Symbol.outline_kind, Symbol.outline_kind, hkind]
  rcases BuildStep.outline_of_sharedSymbol? hdeclares hnot with
    hrecord | ⟨key, hunion, houtline⟩
  · rcases BuildStep.outline_of_sharedSymbol? hdeclares' (hkind ▸ hnot) with
      hrecord' | ⟨key', hunion', houtline' | houtline'⟩
    · rw [hrecord, hrecord', hname]
    · rw [hrecord, houtline'] at hkinds
      contradiction
    · rw [hrecord, houtline'] at hkinds
      contradiction
  · rcases BuildStep.outline_of_sharedSymbol? hdeclares' (hkind ▸ hnot) with
      hrecord' | ⟨key', hunion', houtline'⟩
    · rw [hrecord'] at hkinds
      rcases houtline with houtline | houtline <;>
        rw [houtline] at hkinds <;> contradiction
    · obtain rfl : key = key' :=
        hkeys p hp q hq _ hs _ ht a.name key key' hunion (hname ▸ hunion')
      rcases houtline with houtline | houtline <;>
        rcases houtline' with houtline' | houtline'
      · rw [houtline, houtline', hname]
      · rw [houtline, houtline'] at hkinds
        contradiction
      · rw [houtline, houtline'] at hkinds
        contradiction
      · rw [houtline, houtline', hname]

/-- Documents that declare a symbol before they extend it do so in every schedule. -/
theorem Interleaves.targetsDeclared
    (hschedule : Interleaves plans schedule)
    (hdeclares : ∀ plan ∈ plans, DeclaresFirst plan.steps) :
    Contribution.TargetsDeclared [] (schedule.flatMap Turn.contributions) := by
  have hrest : ∀ rest done, schedule = done ++ rest →
      Contribution.TargetsDeclared (done.flatMap Turn.contributions)
        (rest.flatMap Turn.contributions) := by
    intro rest
    induction rest with
    | nil => exact fun _ _ => trivial
    | cons turn rest ih =>
        intro done hsplit
        have hturn : turn ∈ schedule := hsplit ▸ List.mem_append_right _ List.mem_cons_self
        obtain ⟨plan, hplan, hdocument⟩ := hschedule.planned turn hturn
        have hsteps : plan.steps =
            stepsOf turn.document done ++ turn.step :: stepsOf turn.document rest := by
          rw [← hschedule.in_order plan hplan, hdocument, hsplit, stepsOf_append,
            stepsOf_cons_self]
        rw [List.flatMap_cons]
        refine Contribution.TargetsDeclared.append
          (.of_forall fun target field hmem => ?_) ?_
        · obtain ⟨earlier, hearlier, symbol, hsymbol, hname⟩ :=
            hdeclares plan hplan _ _ _ target hsteps
              (BuildStep.sharedTarget?_of_extend_mem hmem)
          exact ⟨symbol, (declared_flatMap_iff _ _).2
            ⟨_, (mem_stepsOf_iff _ _ _).1 hearlier, hsymbol⟩, hname⟩
        · have hlater := ih (done ++ [turn]) (by rw [hsplit, List.append_assoc]; rfl)
          simpa [List.flatMap_append] using hlater
  exact hrest schedule [] rfl

end Promises

end DocContract
