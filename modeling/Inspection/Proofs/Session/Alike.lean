import Inspection.Proofs.Children.Generation
import Inspection.Proofs.Formatter.Purity
import Inspection.Proofs.Session.Classification

/-! Sessions that differ only in their counters and their generation answer alike. -/

namespace Inspection

/-- A scope without the generation of its reference. -/
def Scope.withoutGeneration (scope : Scope) : Scope :=
  { scope with reference := Reference.withoutGeneration scope.reference }

/-- A list of variables without the generation of their references. -/
def VariablesAnswer.withoutGeneration (answer : VariablesAnswer) : VariablesAnswer :=
  { answer with descriptors := answer.descriptors.map Descriptor.withoutGeneration }

/-- An evaluation without the generation of its reference. -/
def Evaluation.withoutGeneration : Evaluation → Evaluation
  | .console output => .console output
  | .value shown => .value shown.withoutGeneration

/-- An answer without the generation of its references. -/
def Session.Answer.withoutGeneration : Answer → Answer
  | .scopes answer => .scopes (answer.map (List.map Scope.withoutGeneration))
  | .listing answer => .listing answer.withoutGeneration
  | .evaluation answer => .evaluation (answer.map Evaluation.withoutGeneration)
  | .descriptor answer => .descriptor answer.withoutGeneration
  | .frames answer => .frames answer
  | .classification answer => .classification answer
  | .arrival answer => .arrival answer
  | .silence => .silence

namespace Session

/-- The session with other counters and in another generation. -/
def disguise (session : Session) (ledger : Ledger) (generation : UInt32) : Session :=
  { session with ledger, arena := session.arena.inGeneration generation }

/-- Sessions that differ only in their counters and their generation, under pure formatters. -/
structure Alike (left right : Session) : Prop where
  same : ∃ ledger generation, right = left.disguise ledger generation
  registered : left.registry.Pure
  remembered : ∀ id classification, left.known.lookup id = some classification →
    classification.provider.formatter.Pure

variable {left right : Session}

/-- Alike sessions are at the same place of the same recording. -/
theorem Alike.replay (alike : left.Alike right) : right.replay = left.replay := by
  -- The disguise is made of counters and a generation alone.
  obtain ⟨ledger, generation, same⟩ := alike.same
  rw [same]
  rfl

/-- Alike sessions have both handed something out, or neither has. -/
theorem Alike.fresh (alike : left.Alike right) : right.fresh = left.fresh := by
  -- The disguise is made of counters and a generation alone.
  obtain ⟨ledger, generation, same⟩ := alike.same
  rw [same]
  rfl

/-- Alike sessions keep the same handles in the same places. -/
theorem Alike.handle? (alike : left.Alike right) (slot : Nat) :
    right.arena.handle? slot = left.arena.handle? slot := by
  -- Handles are found by place, whatever the generation.
  obtain ⟨ledger, generation, same⟩ := alike.same
  rw [same]
  rfl

/-- A classification of pure formatters is by a pure formatter. -/
theorem classify_pure (registered : left.registry.Pure)
    (remembered : ∀ id classification, left.known.lookup id = some classification →
      classification.provider.formatter.Pure) (value : Value) :
    (left.classify value).1.provider.formatter.Pure ∧
      ∀ id classification, (left.classify value).2.known.lookup id = some classification →
        classification.provider.formatter.Pure := by
  -- A known classification was of a pure formatter, and a new one is resolved from the registry.
  cases known : left.known.lookup value.id with
  | some classification =>
    rw [left.classify_of_known value known]
    exact ⟨remembered _ _ known, remembered⟩
  | none =>
    obtain ⟨queries, added, _, _, settled⟩ := left.classify_of_new value known
    have pure : (left.classify value).1.provider.formatter.Pure := by
      rw [settled.1]
      exact Registry.resolve_pure registered value.type.name
    refine ⟨pure, fun id classification found => ?_⟩
    rw [added, List.lookup_cons] at found
    split at found
    · cases found
      exact pure
    · exact remembered id classification found

/-- What a step classifies, alike sessions classify alike. -/
theorem Alike.classify (alike : left.Alike right) (value : Value) :
    (right.classify value).1 = (left.classify value).1 ∧
      (left.classify value).2.Alike (right.classify value).2 := by
  -- Both know the same, so both answer from what is known or both ask.
  obtain ⟨⟨ledger, generation, same⟩, registered, remembered⟩ := alike
  have pure := classify_pure registered remembered value
  have known : right.known = left.known := by rw [same]; rfl
  cases found : left.known.lookup value.id with
  | some classification =>
    have also : right.known.lookup value.id = some classification := by rw [known, found]
    rw [left.classify_of_known value found, right.classify_of_known value also]
    exact ⟨rfl, ⟨ledger, generation, by rw [same]; rfl⟩, registered, remembered⟩
  | none =>
    -- The formatters are the same, and what has been counted does not matter to them.
    have answers := Classifications.determine_unaffected registered left.inquiry value ledger
      left.ledger
    have also : right.known.lookup value.id = none := by rw [known, found]
    have agree : (right.classify value).1 = (left.classify value).1 := by
      simp only [Session.classify, Classifications.classify, found, also]
      rw [same]
      exact answers
    refine ⟨agree, ⟨(right.classify value).2.ledger, generation, ?_⟩, registered, pure.2⟩
    obtain ⟨_, added, _⟩ := left.classify_of_new value found
    obtain ⟨_, alsoAdded, _⟩ := right.classify_of_new value also
    have entries : (right.classify value).2.known = (left.classify value).2.known := by
      rw [added, alsoAdded, agree, known]
    have whole : (right.classify value).2 =
        { right with known := (right.classify value).2.known,
                     ledger := (right.classify value).2.ledger, fresh := false } := rfl
    rw [whole, entries, same]
    rfl

/-- Alike sessions get the same summary from a pure formatter. -/
theorem Alike.summary (alike : left.Alike right) (value : Value) {classification : Classification}
    (pure : classification.provider.formatter.Pure) :
    (right.summary classification value).1 = (left.summary classification value).1 ∧
      (left.summary classification value).2.Alike (right.summary classification value).2 := by
  -- The native formatter is not asked, and a pure one does not look at the counters.
  obtain ⟨⟨ledger, generation, same⟩, registered, remembered⟩ := alike
  simp only [Session.summary]
  by_cases native : classification.provider.isNative = true
  · rw [if_pos native, if_pos native]
    exact ⟨rfl, ⟨ledger, generation, same⟩, registered, remembered⟩
  · rw [if_neg native, if_neg native, same]
    exact ⟨left.inquiry.summary_unaffected value ledger left.ledger pure, ⟨_, generation, rfl⟩,
      registered, remembered⟩

/-- Alike sessions describe a value alike. -/
theorem Alike.describe (alike : left.Alike right) (value : Value) :
    (right.describe value).1.withoutGeneration = (left.describe value).1.withoutGeneration ∧
      (left.describe value).2.Alike (right.describe value).2 := by
  -- The same classification and the same summary come before the arena is looked at.
  have pure := (classify_pure alike.registered alike.remembered value).1
  obtain ⟨agree, classified⟩ := alike.classify value
  obtain ⟨summaries, ⟨ledger, generation, same⟩, registered, remembered⟩ :=
    classified.summary value pure
  simp only [Session.describe, agree, summaries, same]
  -- What is left is the arena, which looks at the generation for the reference alone.
  obtain ⟨descriptors, arenas⟩ := Arena.describe_inGeneration
    ((left.classify value).2.summary (left.classify value).1 value).2.arena generation value
    (left.classify value).1 ((left.classify value).2.summary (left.classify value).1 value).1
  exact ⟨descriptors, ⟨ledger, generation, congrArg (fun arena =>
    { ((left.classify value).2.summary (left.classify value).1 value).2 with ledger, arena })
      arenas⟩, registered, remembered⟩

/-- Alike sessions describe a list of values alike. -/
theorem Alike.describeAll (alike : left.Alike right) (values : List Value) :
    (right.describeAll values).1.map Descriptor.withoutGeneration =
        (left.describeAll values).1.map Descriptor.withoutGeneration ∧
      (left.describeAll values).2.Alike (right.describeAll values).2 := by
  -- The induction is on the values, from the sessions that the first description leaves.
  induction values generalizing left right with
  | nil => exact ⟨rfl, alike⟩
  | cons value rest ih =>
    obtain ⟨first, described⟩ := alike.describe value
    obtain ⟨later, described⟩ := ih described
    simp only [Session.describeAll, List.map_cons, first, later]
    exact ⟨trivial, described⟩

/-- Alike sessions present outcomes alike. -/
theorem Alike.present (alike : left.Alike right) (outcomes : List ChildOutcome) :
    (right.present outcomes).1.map Descriptor.withoutGeneration =
        (left.present outcomes).1.map Descriptor.withoutGeneration ∧
      (left.present outcomes).2.Alike (right.present outcomes).2 := by
  -- The induction is on the outcomes, from the sessions that the first one leaves.
  induction outcomes generalizing left right with
  | nil => exact ⟨rfl, alike⟩
  | cons outcome rest ih =>
    cases outcome with
    | child child =>
      obtain ⟨first, described⟩ := alike.describe child
      obtain ⟨later, presented⟩ := ih described
      simp only [Session.present, List.map_cons, first, later]
      exact ⟨trivial, presented⟩
    | failed index error =>
      -- A stand-in has no reference.
      obtain ⟨later, presented⟩ := ih alike
      simp only [Session.present, List.map_cons, later]
      exact ⟨trivial, presented⟩

/-- The formatter that supplies the children of a value classified by a pure one is pure. -/
theorem childProvider_pure {classification : Classification}
    (pure : classification.provider.formatter.Pure) :
    (childProvider classification).formatter.Pure := by
  -- Where no children are declared the native formatter supplies them.
  simp only [childProvider]
  split
  · exact Formatter.native_pure
  · exact pure
  · exact pure

/-- Alike sessions serve a window alike. -/
theorem Alike.serve (alike : left.Alike right) (slot : Nat) (value : Value) (window : Window) :
    (right.serve slot value window).1 = (left.serve slot value window).1 ∧
      (left.serve slot value window).2.Alike (right.serve slot value window).2 := by
  -- The classification comes first and is the same.
  have pure := childProvider_pure (classify_pure alike.registered alike.remembered value).1
  obtain ⟨agree, ⟨ledger, generation, same⟩, registered, remembered⟩ := alike.classify value
  have handles : ((left.classify value).2.disguise ledger generation).arena.handle? slot =
      (left.classify value).2.arena.handle? slot := rfl
  have inquiries : ((left.classify value).2.disguise ledger generation).inquiry =
      (left.classify value).2.inquiry := rfl
  have limits : ((left.classify value).2.disguise ledger generation).options =
      (left.classify value).2.options := rfl
  simp only [Session.serve, agree, same, handles, inquiries, limits]
  cases (left.classify value).2.arena.handle? slot with
  | none => exact ⟨rfl, ⟨ledger, generation, rfl⟩, registered, remembered⟩
  | some handle =>
    -- The handle is the same, and its provider does not look at the counters.
    obtain ⟨answers, served⟩ := Handle.enumerate_unaffected (left.classify value).2.inquiry pure
      handle (left.classify value).1.kind window (left.classify value).2.options.maxNamed
      ((left.classify value).2.disguise ledger generation).ledger (left.classify value).2.ledger
    simp only [answers, served]
    exact ⟨trivial, ⟨_, generation, rfl⟩, registered, remembered⟩

/-- Alike sessions ask for a child alike. -/
theorem Alike.follow (alike : left.Alike right) (value : Value) (key : ChildKey) :
    (right.follow value key).1 = (left.follow value key).1 ∧
      (left.follow value key).2.Alike (right.follow value key).2 := by
  -- The classification comes first and is the same, and its formatter is asked for the child.
  have pure := childProvider_pure (classify_pure alike.registered alike.remembered value).1
  obtain ⟨agree, ⟨ledger, generation, same⟩, registered, remembered⟩ := alike.classify value
  simp only [Session.follow, agree, same]
  exact ⟨(left.classify value).2.inquiry.child_unaffected value ledger _ pure key,
    ⟨_, generation, rfl⟩, registered, remembered⟩

/-- Alike sessions walk alike. -/
theorem Alike.walk (alike : left.Alike right) (current : Value) (walked : String)
    (keys : List ChildKey) :
    (right.walk current walked keys).1 = (left.walk current walked keys).1 ∧
      (left.walk current walked keys).2.Alike (right.walk current walked keys).2 := by
  -- The induction is on the keys; the same child leads both walks on.
  induction keys generalizing left right current walked with
  | nil => exact ⟨rfl, alike⟩
  | cons key rest ih =>
    obtain ⟨agree, followed⟩ := alike.follow current key
    simp only [Session.walk, agree]
    split
    · exact ⟨rfl, followed⟩
    · exact ⟨rfl, followed⟩
    · exact ih followed _ _

/-- Alike sessions reach the same value by a path. -/
theorem Alike.reach (alike : left.Alike right) (frame : Nat) (path : Path) :
    (right.reach frame path).1 = (left.reach frame path).1 ∧
      (left.reach frame path).2.Alike (right.reach frame path).2 := by
  -- The walk begins at the same variable of the same replay.
  simp only [Session.reach, alike.replay]
  cases left.replay.locals frame with
  | error error => exact ⟨rfl, alike⟩
  | ok locals =>
    simp only
    cases locals.find? fun candidate => candidate.name == path.root with
    | none => exact ⟨rfl, alike⟩
    | some start => exact alike.walk start path.root path.keys

/-- Alike sessions evaluate a path alike. -/
theorem Alike.evaluatePath (alike : left.Alike right) (frame : Nat) (path : Path) :
    (right.evaluatePath frame path).1.map Descriptor.withoutGeneration =
        (left.evaluatePath frame path).1.map Descriptor.withoutGeneration ∧
      (left.evaluatePath frame path).2.Alike (right.evaluatePath frame path).2 := by
  -- The same value is reached, and then described alike.
  obtain ⟨agree, reached⟩ := alike.reach frame path
  simp only [Session.evaluatePath]
  rcases there : right.reach frame path with ⟨answer, next⟩
  rcases here : left.reach frame path with ⟨error | value, session⟩
  · rw [there, here] at agree reached
    cases agree
    exact ⟨rfl, reached⟩
  · rw [there, here] at agree reached
    cases agree
    obtain ⟨descriptors, described⟩ := reached.describe value
    exact ⟨congrArg Except.ok descriptors, described⟩

/-- Alike sessions edit their formatters alike, and say so alike unless asked for the counters. -/
theorem Alike.runConsole (alike : left.Alike right) (line : String) :
    (¬Console.AsksForCounters line → (right.runConsole line).1 = (left.runConsole line).1) ∧
      (left.runConsole line).2.Alike (right.runConsole line).2 := by
  -- The registry that a line leaves does not depend on the counters.
  obtain ⟨⟨ledger, generation, same⟩, registered, remembered⟩ := alike
  have registry : right.registry = left.registry := by rw [same]; rfl
  have registries := Console.run_registry line left.registry right.ledger left.ledger
  have pure := Console.run_all registered line left.ledger
  have outputs : ¬Console.AsksForCounters line →
      (Console.run line left.registry right.ledger).output =
        (Console.run line left.registry left.ledger).output :=
    fun discreet => Console.run_output discreet left.registry right.ledger left.ledger
  simp only [Session.runConsole, registry]
  -- What the line does matters only for the registry it leaves.
  generalize Console.run line left.registry right.ledger = other at *
  generalize Console.run line left.registry left.ledger = effect at *
  refine ⟨outputs, ⟨other.ledger, generation, ?_⟩, pure, remembered⟩
  simp only [registries, same, disguise]

/-- A line that is no request for the counters, where it is a console line at all. -/
def DiscreetExpression (expression : String) : Prop :=
  (Text.trim expression).toList.head? = some Console.mark →
    ¬Console.AsksForCounters (Text.trim expression)

/-- Alike sessions evaluate an expression alike, unless it asks for the counters. -/
theorem Alike.evaluate (alike : left.Alike right) (frame : Nat) {expression : String}
    (discreet : DiscreetExpression expression) :
    (right.evaluate frame expression).1.map Evaluation.withoutGeneration =
        (left.evaluate frame expression).1.map Evaluation.withoutGeneration ∧
      (left.evaluate frame expression).2.Alike (right.evaluate frame expression).2 := by
  -- The mark decides between a console line and a path, and it is part of the request.
  simp only [Session.evaluate]
  by_cases marked : (Text.trim expression).toList.head? = some Console.mark
  · obtain ⟨outputs, edited⟩ := alike.runConsole (Text.trim expression)
    rw [if_pos marked, if_pos marked]
    simp only [outputs (discreet marked)]
    exact ⟨trivial, edited⟩
  · rw [if_neg marked, if_neg marked]
    cases Path.parse? (Text.trim expression) with
    | none => exact ⟨rfl, alike⟩
    | some path =>
      obtain ⟨answers, evaluated⟩ := alike.evaluatePath frame path
      refine ⟨?_, evaluated⟩
      -- A descriptor is wrapped as it is.
      have wrapped : ∀ answer : Except InspectError Descriptor,
          (answer.map Evaluation.value).map Evaluation.withoutGeneration =
            (answer.map Descriptor.withoutGeneration).map Evaluation.value := by
        intro answer
        cases answer <;> rfl
      simp only [wrapped, answers]

/-- Alike sessions give out the scopes of a frame alike. -/
theorem Alike.scopes (alike : left.Alike right) (frame : Nat) :
    (right.scopes frame).1.map (List.map Scope.withoutGeneration) =
        (left.scopes frame).1.map (List.map Scope.withoutGeneration) ∧
      (left.scopes frame).2.Alike (right.scopes frame).2 := by
  -- The frames are those of the replay, and the reference differs by its generation.
  have kept := alike
  have replay := alike.replay
  obtain ⟨⟨ledger, generation, same⟩, registered, remembered⟩ := alike
  have handles : right.arena = left.arena.inGeneration generation := by rw [same]; rfl
  obtain ⟨references, arenas⟩ := left.arena.locals_inGeneration generation frame
  simp only [Session.scopes, replay, handles]
  cases left.replay.frames with
  | error error => exact ⟨rfl, kept⟩
  | ok frames =>
    simp only
    split
    · refine ⟨?_, ⟨ledger, generation, ?_⟩, registered, remembered⟩
      · simp only [Except.map, List.map_cons, List.map_nil, Scope.withoutGeneration, references]
      · rw [arenas, same]
        rfl
    · exact ⟨rfl, kept⟩

/-- Alike sessions expand a value alike. -/
theorem Alike.expand (alike : left.Alike right) (slot : Nat) (value : Value) (window : Window) :
    (right.expand slot value window).1.withoutGeneration =
        (left.expand slot value window).1.withoutGeneration ∧
      (left.expand slot value window).2.Alike (right.expand slot value window).2 := by
  -- The same children are served, and then described alike.
  obtain ⟨outcomes, served⟩ := alike.serve slot value window
  obtain ⟨descriptors, presented⟩ := served.present (left.serve slot value window).1
  simp only [Session.expand, outcomes, VariablesAnswer.withoutGeneration, descriptors]
  exact ⟨trivial, presented⟩

/-- Alike sessions list alike what two references lead to, if they lead to the same. -/
theorem Alike.listVariables (alike : left.Alike right) {one other : Int64} (window : Window)
    (led : right.target? other = left.target? one)
    (lost : left.target? one = none → other = one) :
    (right.listVariables other window).1.withoutGeneration =
        (left.listVariables one window).1.withoutGeneration ∧
      (left.listVariables one window).2.Alike (right.listVariables other window).2 := by
  -- The same target is found, so both list the same.
  simp only [Session.listVariables, led]
  rcases found : left.target? one with _ | ⟨slot, target⟩
  · -- The refusal names the reference, which is the same.
    rw [lost found]
    exact ⟨rfl, alike⟩
  · cases target with
    | locals frame =>
      simp only [alike.replay]
      cases left.replay.locals frame with
      | error error => exact ⟨rfl, alike⟩
      | ok locals =>
        obtain ⟨descriptors, described⟩ := alike.describeAll (window.select locals)
        simp only [VariablesAnswer.withoutGeneration, descriptors]
        exact ⟨trivial, described⟩
    | value value => exact alike.expand slot value window

/-- Alike sessions are alike once the program runs. -/
theorem Alike.resumed (alike : left.Alike right) : left.resumed.Alike right.resumed := by
  -- Both forget their stop, and both count their generation on.
  obtain ⟨⟨ledger, generation, same⟩, registered, _⟩ := alike
  refine ⟨⟨ledger, Reference.nextGeneration generation, ?_⟩, registered, fun _ _ found => ?_⟩
  · rw [same]
    rfl
  · cases found

/-- Alike sessions are alike once the program has stopped. -/
theorem Alike.stopped (alike : left.Alike right) (reason : StopReason) :
    (left.stopped reason).Alike (right.stopped reason) := by
  -- Either both forget the old stop or neither does.
  have fresh := alike.fresh
  obtain ⟨⟨ledger, generation, same⟩, registered, remembered⟩ := alike
  simp only [Session.stopped, fresh]
  split
  · refine ⟨⟨ledger, generation, ?_⟩, registered, remembered⟩
    rw [same]
    rfl
  · -- Both forget the old stop.
    refine ⟨⟨ledger, Reference.nextGeneration generation, ?_⟩, registered, fun _ _ found => ?_⟩
    · rw [same]
      rfl
    · cases found

/-- Alike sessions are alike wherever the program is. -/
theorem Alike.moved (alike : left.Alike right) (replay : Replay) :
    Alike { left with replay } { right with replay } := by
  -- The place of the program is no part of the disguise.
  obtain ⟨⟨ledger, generation, same⟩, registered, remembered⟩ := alike
  refine ⟨⟨ledger, generation, ?_⟩, registered, remembered⟩
  rw [same]
  rfl

/-- Alike sessions let the program run alike. -/
theorem Alike.resume (alike : left.Alike right) (kind : Resumption) :
    (right.resume kind).1 = (left.resume kind).1 ∧
      (left.resume kind).2.Alike (right.resume kind).2 := by
  -- Both end their stop first, and then the same program runs.
  have running := alike.resumed
  simp only [Session.resume, running.replay]
  cases left.resumed.replay.resume kind with
  | error error => exact ⟨rfl, running⟩
  | ok arrival =>
    rcases arrival with ⟨reached, moved⟩
    cases reached with
    | stopped reason => exact ⟨rfl, (running.moved moved).stopped reason⟩
    | exited => exact ⟨rfl, running.moved moved⟩

/-- Alike sessions see the program run on alike. -/
theorem Alike.proceed (alike : left.Alike right) (kind : Resumption) :
    (right.proceed kind).1 = (left.proceed kind).1 ∧
      (left.proceed kind).2.Alike (right.proceed kind).2 := by
  -- The same program runs.
  simp only [Session.proceed, alike.replay]
  cases left.replay.resume kind with
  | error error => exact ⟨rfl, alike⟩
  | ok arrival => exact ⟨rfl, alike.moved arrival.2⟩

/-- What each of two sessions has to be asked so that both are asked the same. -/
def Counterpart (left right : Session) : Request Int64 → Request Int64 → Prop
  | .listVariables one window, asked =>
    ∃ other, asked = .listVariables other window ∧ right.target? other = left.target? one ∧
      (left.target? one = none → other = one)
  | request, asked => asked = request

/-- A request that does not ask for the counters. -/
def Request.Discreet {ρ : Type} : Request ρ → Prop
  | .evaluate _ expression => DiscreetExpression expression
  | .frames | .scopes _ | .listVariables _ _ | .classify _ | .describe _ | .resume _ | .resumed
  | .stopped _ | .proceed _ => True

/-- Alike sessions answer alike and stay alike. -/
theorem Alike.respond (alike : left.Alike right) {request asked : Request Int64}
    (counterpart : Counterpart left right request asked) (discreet : request.Discreet) :
    (right.respond asked).1.withoutGeneration = (left.respond request).1.withoutGeneration ∧
      (left.respond request).2.Alike (right.respond asked).2 := by
  -- Every request but a listing is asked of both in the same words.
  cases request with
  | listVariables one window =>
    obtain ⟨other, rfl, led, lost⟩ := counterpart
    obtain ⟨answers, after⟩ := alike.listVariables window led lost
    exact ⟨congrArg Answer.listing answers, after⟩
  | frames =>
    cases counterpart
    simp only [Session.respond, Session.frames, alike.replay]
    exact ⟨trivial, alike⟩
  | scopes frame =>
    cases counterpart
    obtain ⟨answers, after⟩ := alike.scopes frame
    exact ⟨congrArg Answer.scopes answers, after⟩
  | evaluate frame expression =>
    cases counterpart
    obtain ⟨answers, after⟩ := alike.evaluate frame discreet
    simp only [Session.respond, Answer.withoutGeneration, answers]
    exact ⟨trivial, after⟩
  | classify value =>
    cases counterpart
    obtain ⟨answers, after⟩ := alike.classify value
    exact ⟨congrArg Answer.classification answers, after⟩
  | describe value =>
    cases counterpart
    obtain ⟨answers, after⟩ := alike.describe value
    exact ⟨congrArg Answer.descriptor answers, after⟩
  | resume kind =>
    cases counterpart
    obtain ⟨answers, after⟩ := alike.resume kind
    exact ⟨congrArg Answer.arrival answers, after⟩
  | resumed =>
    cases counterpart
    exact ⟨rfl, alike.resumed⟩
  | stopped reason =>
    cases counterpart
    exact ⟨rfl, alike.stopped reason⟩
  | proceed kind =>
    cases counterpart
    obtain ⟨answers, after⟩ := alike.proceed kind
    exact ⟨congrArg Answer.arrival answers, after⟩

end Session

end Inspection
