import Inspection.CommandLine
import Inspection.Proofs.Children.Demand
import Inspection.Proofs.Session.Classification

/-! Children are asked for only where a request lists or walks to them. -/

namespace Inspection

/-- Classifying a value asks for no child. -/
theorem Classifications.determine_asked (registry : Registry) (inquiry : Inquiry) (value : Value)
    (ledger : Ledger) : ledger.Asked [] (determine registry inquiry value ledger).2 := by
  -- A size query is all that a classification may need.
  have sized := inquiry.size_asked (registry.resolve value.type.name) value ledger
  simp only [determine]
  generalize inquiry.size (registry.resolve value.type.name) value ledger = query at sized ⊢
  split
  · rcases query with ⟨error | count, asked⟩
    · exact sized
    · exact sized
  · split <;> exact .nothing ledger

/-- A console line asks for no child. -/
theorem Console.run_asked (line : String) (registry : Registry) (ledger : Ledger) :
    ledger.Asked [] (run line registry ledger).ledger := by
  simp only [run]
  split
  · rename_i command _
    -- Of all commands only the reset touches the ledger, and it makes no call.
    cases command with
    | reset => exact ⟨[], .reset .nothing, rfl⟩
    | help | list | counters | sizeCalls | clear => exact .nothing ledger
    | delete name =>
      simp only [execute]
      split <;> exact .nothing ledger
  · exact .nothing ledger

/-- The requests of a walk: each key is asked of the value that the key before it led to. -/
inductive Walked : Value → List ChildKey → List Call → Prop where
  | arrived (value : Value) : Walked value [] []
  /-- The walk ends at a key that leads to no child. -/
  | missing {source : Source} {value : Value} {key : ChildKey} {rest : List ChildKey}
      {answer : Except FormatterError (Option Value)}
      (nowhere : ∀ child, answer ≠ .ok (some child)) :
      Walked value (key :: rest) [.child source value key answer]
  | onward {source : Source} {value child : Value} {key : ChildKey} {rest : List ChildKey}
      {asked : List Call} (walked : Walked child rest asked) :
      Walked value (key :: rest) (.child source value key (.ok (some child)) :: asked)

/-- A walk asks for its keys in order, each once, as far as it comes. -/
theorem Walked.keys {value : Value} {keys : List ChildKey} {asked : List Call}
    (walked : Walked value keys asked) : asked.map Call.key? <+: keys.map some := by
  -- Each request on the way is for the next of the keys.
  induction walked with
  | arrived => exact List.nil_prefix
  | missing _ => exact List.cons_prefix_cons.mpr ⟨rfl, List.nil_prefix⟩
  | onward _ ih => exact List.cons_prefix_cons.mpr ⟨rfl, ih⟩

namespace Session

variable (session : Session)

/-- What was asked for between two sessions, and where children were served. -/
structure Demanded (before : Session) (asked : List Call) (place : Option Nat)
    (after : Session) : Prop where
  asked : before.ledger.Asked asked after.ledger
  served : before.arena.EnumeratesAt place after.arena

/-- Where neither ledger nor arena changes nothing was asked for. -/
theorem Demanded.of_eq {before after : Session} (ledger : after.ledger = before.ledger)
    (arena : after.arena = before.arena) : before.Demanded [] none after := by
  refine ⟨?_, ?_⟩
  · rw [ledger]
    exact .nothing before.ledger
  · rw [arena]
    exact .nothing before.arena

/-- Two stretches, the second of which serves no window, ask for what both ask for. -/
theorem Demanded.trans {before between after : Session} {first second : List Call}
    {place : Option Nat} (early : before.Demanded first place between)
    (late : between.Demanded second none after) :
    before.Demanded (first ++ second) place after :=
  ⟨early.asked.trans late.asked, early.served.trans late.served⟩

/-- Classifying a value asks for no child. -/
theorem classify_demanded (value : Value) :
    session.Demanded [] none (session.classify value).2 := by
  -- The arena is not touched, and a classification that is known makes no call at all.
  refine ⟨?_, .nothing session.arena⟩
  simp only [classify, Classifications.classify]
  split
  · exact .nothing session.ledger
  · exact Classifications.determine_asked ..

/-- Asking for a summary asks for no child. -/
theorem summary_demanded (classification : Classification) (value : Value) :
    session.Demanded [] none (session.summary classification value).2 := by
  -- The native formatter is not asked at all.
  simp only [summary]
  split
  · exact .of_eq rfl rfl
  · exact ⟨session.inquiry.summary_asked .., .nothing session.arena⟩

/-- Describing a value asks for no child. -/
theorem describe_demanded (value : Value) :
    session.Demanded [] none (session.describe value).2 := by
  -- The value is classified and summarised, and only then is a handle offered.
  have classified := session.classify_demanded value
  have summarised := (session.classify value).2.summary_demanded (session.classify value).1 value
  have offered := Arena.EnumeratesAt.describe
    ((session.classify value).2.summary (session.classify value).1 value).2.arena value
    (session.classify value).1
    ((session.classify value).2.summary (session.classify value).1 value).1
  exact (classified.trans summarised).trans ⟨.nothing _, offered⟩

/-- Serving a window asks for children in the window that the handle does not remember. -/
theorem serve_demanded {slot : Nat} {handle : Handle} {value : Value}
    (found : session.arena.handle? slot = some handle) (target : handle.target = .value value)
    (window : Window) :
    ∃ asked, session.Demanded asked (some slot) (session.serve slot value window).2 ∧
      handle.Demands session.inquiry (childProvider (session.classify value).1) value
        (window.positions (session.classify value).1.kind session.options.maxNamed) asked := by
  -- The classification comes first and leaves the handle where it is.
  have same : (session.classify value).2.arena.handle? slot = some handle := found
  obtain ⟨asked, made, demands⟩ := Handle.enumerate_demands target (session.classify value).1.kind
    window session.options.maxNamed (session.classify value).2.ledger
  refine ⟨asked, ?_, demands⟩
  refine ⟨(session.classify_demanded value).asked.trans ?_, ?_⟩
  · simp only [serve, same]
    exact made
  · simp only [serve, same]
    exact .setHandle found (Handle.enumerate_frame ..).1 fun _ => .inr rfl

/-- Following a key asks for one child. -/
theorem follow_demanded (value : Value) (key : ChildKey) :
    session.Demanded [.child (childProvider (session.classify value).1).source value key
      (session.follow value key).1] none (session.follow value key).2 := by
  -- The classification comes first, and the one request after it.
  have classified := session.classify_demanded value
  exact classified.trans ⟨Inquiry.child_asked .., .nothing _⟩

/-- A console line asks for no child. -/
theorem runConsole_demanded (line : String) :
    session.Demanded [] none (session.runConsole line).2 := by
  -- What the line does is kept folded, since only its ledger matters.
  have unasked := Console.run_asked line session.registry session.ledger
  simp only [runConsole]
  generalize Console.run line session.registry session.ledger = effect at unasked ⊢
  exact ⟨unasked, .nothing session.arena⟩

/-- Whether a step can only ask for sizes and summaries. -/
def Step.isFrugal : Step → Bool
  | serve _ _ _ | follow _ _ => false
  | classify _ | describe _ | openFrame _ | command _ | resumed | stopped _ | proceed _ => true

/-- A frugal step asks for no child. -/
theorem perform_demanded {step : Step} (frugal : step.isFrugal = true) :
    session.Demanded [] none (session.perform step) := by
  -- No such step reaches a provider's children, and none of them serves a window.
  cases step with
  | classify value => exact session.classify_demanded value
  | describe value => exact session.describe_demanded value
  | serve _ _ _ | follow _ _ => cases frugal
  | openFrame frame => exact ⟨.nothing _, .slotForLocals session.arena frame⟩
  | command line => exact session.runConsole_demanded line
  | resumed => exact ⟨.nothing _, .of_empty rfl⟩
  | stopped reason =>
    -- News of a stop drops every handle, if anything has been handed out.
    simp only [perform, Session.stopped]
    split
    · exact .of_eq rfl rfl
    · exact ⟨.nothing _, .of_empty rfl⟩
  | proceed kind =>
    obtain ⟨replay, left⟩ := session.proceed_frame kind
    simp only [perform, left]
    exact .of_eq rfl rfl

/-- Frugal steps ask for no child. -/
theorem performAll_demanded {steps : List Step} (frugal : ∀ step ∈ steps, step.isFrugal = true) :
    session.Demanded [] none (session.performAll steps) := by
  -- The induction is on the steps, from the session that the first one leaves.
  induction steps generalizing session with
  | nil => exact .of_eq rfl rfl
  | cons step rest ih =>
    obtain ⟨first, later⟩ := List.forall_mem_cons.mp frugal
    exact (session.perform_demanded first).trans (ih (session.perform step) later)

/-- Walking asks for each key in turn, until one leads nowhere. -/
theorem walk_demanded (current : Value) (walked : String) (keys : List ChildKey) :
    ∃ asked, session.Demanded asked none (session.walk current walked keys).2 ∧
      Walked current keys asked := by
  -- The induction is on the keys, from the value and the session that the first one leads to.
  induction keys generalizing session current walked with
  | nil => exact ⟨[], .of_eq rfl rfl, .arrived current⟩
  | cons key rest ih =>
    have followed := session.follow_demanded current key
    simp only [walk]
    generalize session.follow current key = step at followed ⊢
    rcases step with ⟨error | _ | child, next⟩
    · exact ⟨_, followed, .missing fun child found => by cases found⟩
    · exact ⟨_, followed, .missing fun child found => by cases found⟩
    · obtain ⟨asked, later, onward⟩ := ih next child (walked ++ key.segment)
      exact ⟨_, followed.trans later, .onward onward⟩

/-- The path that an expression spells, unless it is a console line. -/
def pathOf? (expression : String) : Option Path :=
  let expression := Text.trim expression
  if expression.toList.head? = some Console.mark then none else Path.parse? expression

/-- The requests for children that evaluating an expression may come to. -/
def EvaluationWarrants (expression : String) (asked : List Call) : Prop :=
  match pathOf? expression with
  | some path =>
    asked.length ≤ path.keys.length ∧ (asked = [] ∨ ∃ start, Walked start path.keys asked)
  | none => asked = []

/-- Evaluating a path asks only for the keys that are walked. -/
theorem evaluatePath_demanded (frame : Nat) (path : Path) :
    ∃ asked, session.Demanded asked none (session.evaluatePath frame path).2 ∧
      (asked = [] ∨ ∃ start, Walked start path.keys asked) := by
  -- Without a local variable of the name there is no walk.
  simp only [evaluatePath, reach]
  cases session.replay.locals frame with
  | error error => exact ⟨[], .of_eq rfl rfl, .inl rfl⟩
  | ok locals =>
    simp only
    cases locals.find? fun candidate => candidate.name == path.root with
    | none => exact ⟨[], .of_eq rfl rfl, .inl rfl⟩
    | some start =>
      obtain ⟨asked, walking, walked⟩ := session.walk_demanded start path.root path.keys
      refine ⟨asked, ?_, .inr ⟨start, walked⟩⟩
      simp only
      generalize session.walk start path.root path.keys = reached at walking ⊢
      -- What the walk leads to is described, which asks for nothing more.
      rcases reached with ⟨error | value, next⟩
      · exact walking
      · have described := walking.trans (next.describe_demanded value)
        rw [List.append_nil] at described
        exact described

/-- Evaluating an expression asks only for the keys of a path, in order. -/
theorem evaluate_demanded (frame : Nat) (expression : String) :
    ∃ asked, session.Demanded asked none (session.evaluate frame expression).2 ∧
      EvaluationWarrants expression asked := by
  -- Only what is neither a console line nor unreadable has keys to walk.
  by_cases marked : (Text.trim expression).toList.head? = some Console.mark
  · -- A console line spells no path.
    simp only [evaluate, EvaluationWarrants, pathOf?, if_pos marked]
    exact ⟨[], session.runConsole_demanded (Text.trim expression), rfl⟩
  · simp only [evaluate, EvaluationWarrants, pathOf?, if_neg marked]
    cases Path.parse? (Text.trim expression) with
    | none => exact ⟨[], .of_eq rfl rfl, rfl⟩
    | some path =>
      obtain ⟨asked, demanded, walks⟩ := session.evaluatePath_demanded frame path
      refine ⟨asked, demanded, ?_, walks⟩
      rcases walks with rfl | ⟨start, walked⟩
      · exact Nat.zero_le _
      · simpa using walked.keys.length_le

/-- The requests for children that a request to a session may come to. -/
def Warrants (asked : List Call) : Request Int64 → Prop
  | .listVariables reference window =>
    match session.target? reference with
    | some (slot, .value value) =>
      let classification := (session.classify value).1
      -- Each position is asked for once and in order, and none whose child is remembered.
      ∃ handle indexes, session.arena.handle? slot = some handle ∧ indexes.Pairwise (· < ·) ∧
        (∀ index ∈ indexes, handle.child? index = none ∧
          index ∈ window.positions classification.kind session.options.maxNamed) ∧
        List.Forall₂ (fun index call => session.inquiry.Requests (childProvider classification)
          value (.position index) call) indexes asked
    | some (_, .locals _) | none => asked = []
  | .evaluate _ expression => EvaluationWarrants expression asked
  | .frames | .scopes _ | .classify _ | .describe _ | .resume _ | .resumed | .stopped _
  | .proceed _ => asked = []

/-- A request of frugal steps asks for no child. -/
theorem respond_of_frugal {request : Request Int64}
    (frugal : ∀ step ∈ session.steps request, step.isFrugal = true) :
    session.Demanded [] none (session.respond request).2 := by
  rw [respond_performAll]
  exact session.performAll_demanded frugal

/-- Listing asks only for children of the value that the reference leads to. -/
theorem listVariables_demanded (reference : Int64) (window : Window) :
    ∃ asked place, session.Demanded asked place (session.listVariables reference window).2 ∧
      session.Warrants asked (.listVariables reference window) ∧
      (place = none ∨ session.arena.resolve reference = place) := by
  -- The target decides whether a window of children is served or locals are described.
  simp only [listVariables_performAll, listingSteps, Warrants]
  rcases leads : session.target? reference with _ | ⟨slot, target⟩
  · exact ⟨[], none, .of_eq rfl rfl, rfl, .inl rfl⟩
  · cases target with
    | locals frame =>
      refine ⟨[], none, ?_, rfl, .inl rfl⟩
      apply performAll_demanded
      -- The locals of a frame are at hand, so they are only described.
      simp only
      cases session.replay.locals frame with
      | error error => exact List.forall_mem_nil _
      | ok locals => exact forall_describes (fun _ => rfl) _
    | value value =>
      obtain ⟨resolved, handle, found, target⟩ := resolve_of_target leads
      obtain ⟨asked, served, indexes, within, fresh, matched⟩ :=
        session.serve_demanded found target window
      -- Describing what was served asks for nothing more.
      have described := served.trans ((session.serve slot value window).2.performAll_demanded
        (forall_describes (fun _ => rfl) (childrenOf (session.serve slot value window).1)))
      rw [List.append_nil] at described
      refine ⟨asked, some slot, described, ⟨handle, indexes, found, ?_, ?_, matched⟩,
        .inr resolved⟩
      · exact (window.positions_ascending _ _).sublist within
      · exact fun index member => ⟨fresh index member, within.subset member⟩

/-- A request asks for children as it warrants, and serves them at the place it names. -/
theorem respond_demanded (request : Request Int64) :
    ∃ asked place, session.Demanded asked place (session.respond request).2 ∧
      session.Warrants asked request ∧
      (place = none ∨ ∃ reference window, request = .listVariables reference window ∧
        session.arena.resolve reference = place) := by
  -- Apart from listing and evaluating every request is a run of frugal steps.
  cases request with
  | listVariables reference window =>
    obtain ⟨asked, place, demanded, warrants, resolved⟩ :=
      session.listVariables_demanded reference window
    simp only [respond]
    exact ⟨asked, place, demanded, warrants,
      resolved.imp_right fun same => ⟨reference, window, rfl, same⟩⟩
  | evaluate frame expression =>
    obtain ⟨asked, demanded, warrants⟩ := session.evaluate_demanded frame expression
    simp only [respond, Warrants]
    exact ⟨asked, none, demanded, warrants, .inl rfl⟩
  | frames => exact ⟨[], none, .of_eq rfl rfl, rfl, .inl rfl⟩
  | classify _ | describe _ | resumed | stopped _ | proceed _ =>
    exact ⟨[], none, session.respond_of_frugal (List.forall_mem_singleton.mpr rfl), rfl, .inl rfl⟩
  | scopes frame =>
    refine ⟨[], none, session.respond_of_frugal ?_, rfl, .inl rfl⟩
    simp only [steps, scopesSteps]
    cases session.replay.frames with
    | error error => exact List.forall_mem_nil _
    | ok frames =>
      simp only
      split
      · exact List.forall_mem_singleton.mpr rfl
      · exact List.forall_mem_nil _
  | resume kind =>
    refine ⟨[], none, session.respond_of_frugal ?_, rfl, .inl rfl⟩
    simp only [steps, resumeSteps]
    refine List.forall_mem_cons.mpr ⟨rfl, ?_⟩
    rcases session.replay.resume kind with error | ⟨reached, replay⟩
    · exact List.forall_mem_nil _
    · cases reached with
      | stopped reason =>
        exact List.forall_mem_cons.mpr ⟨rfl, List.forall_mem_singleton.mpr rfl⟩
      | exited => exact List.forall_mem_singleton.mpr rfl

/-- A handle that is enumerated was so before some requests, or one of them listed its reference. -/
theorem after_enumerated (requests : List (Request Int64)) {slot : Nat} {handle : Handle}
    (found : (session.after requests).arena.handle? slot = some handle)
    (enumerated : handle.isEnumerated = true) :
    (∃ earlier, session.arena.handle? slot = some earlier ∧ earlier.isEnumerated = true) ∨
      ∃ before reference window later,
        requests = before ++ .listVariables reference window :: later ∧
          (session.after before).arena.resolve reference = some slot := by
  -- The induction is on the requests, from the session that the first one leaves.
  induction requests generalizing session with
  | nil => exact .inl ⟨handle, found, enumerated⟩
  | cons request rest ih =>
    rcases ih (session.respond request).2 found with ⟨between, known, already⟩ | later
    · obtain ⟨asked, place, demanded, _, listed⟩ := session.respond_demanded request
      obtain ⟨earlier, stood, _, before | there⟩ := demanded.served slot between known already
      · exact .inl ⟨earlier, stood, before⟩
      · -- The place is that of the reference which this very request lists.
        obtain rfl | ⟨reference, window, rfl, resolved⟩ := listed
        · cases there
        · exact .inr ⟨[], reference, window, rest, rfl, resolved.trans there⟩
    · obtain ⟨before, reference, window, others, rfl, resolved⟩ := later
      exact .inr ⟨request :: before, reference, window, others, rfl, resolved⟩

variable {session} in
/-- Where all handles are for locals, listing asks for no child. -/
theorem listVariables_of_locals {frame : Nat}
    (locals : session.arena.All fun handle => handle.target = .locals frame) (reference : Int64)
    (window : Window) :
    session.ledger.Asked [] (session.listVariables reference window).2.ledger := by
  obtain ⟨asked, place, listed, warrants, _⟩ := session.listVariables_demanded reference window
  -- Children are warranted only for a reference that leads to a value.
  have none : asked = [] := by
    simp only [Warrants] at warrants
    rcases leads : session.target? reference with _ | ⟨slot, target⟩
    · simpa only [leads] using warrants
    · cases target with
      | locals _ => simpa only [leads] using warrants
      | value value =>
        obtain ⟨_, handle, found, target⟩ := resolve_of_target leads
        have opposed : handle.target = .locals frame := locals slot handle found
        rw [target] at opposed
        cases opposed
  rw [← none]
  exact listed.asked

/-- A session that has only opened one frame has handles for nothing else. -/
theorem scopes_start {replay : Replay} {registry : Registry} {options : SessionOptions}
    {frame : Nat} {scopes : List Scope} {next : Session}
    (opened : (start replay registry options).scopes frame = (.ok scopes, next)) :
    next.arena.All fun handle => handle.target = .locals frame := by
  -- The arena is empty at the start, and opening the frame adds one handle.
  have empty : Arena.empty.All fun handle => handle.target = .locals frame := by
    intro slot handle found
    simp [Arena.empty, Arena.handle?] at found
  simp only [Session.scopes] at opened
  split at opened
  · cases opened
  · split at opened
    · cases opened
      exact empty.slotForLocals rfl
    · cases opened

/-- A report on a frame counts no request for a child. -/
theorem ofFrame_tally {replay : Replay} {registry : Registry} {options : SessionOptions}
    {stop frame : Nat} {report : Report} {note : Option String}
    (reported : Report.ofFrame (start replay registry options) stop frame = .ok (report, note)) :
    ∀ entry ∈ report.tally, entry.2.child = 0 := by
  -- Opening the frame and listing its locals are the two requests behind a report.
  obtain ⟨_, _, opening, warranted, _⟩ :=
    (start replay registry options).respond_demanded (.scopes frame)
  cases warranted
  simp only [Report.ofFrame] at reported
  rcases opened : (start replay registry options).scopes frame with ⟨error | scopes, next⟩
  · rw [opened] at reported
    cases reported
  · simp only [respond, opened] at opening
    -- Nothing was counted at the start, and nothing is asked for whatever the scope refers to.
    have uncounted : ∀ reference,
        ∀ entry ∈ (next.listVariables reference .all).2.ledger.tally, entry.2.child = 0 := by
      intro reference
      obtain ⟨calls, entered, unasked⟩ :=
        opening.asked.trans (listVariables_of_locals (scopes_start opened) reference .all)
      have backed : Ledger.empty.Backed := fun entry member => by cases member
      apply (backed.entered entered).child_eq_zero
      rw [entered.childRequests_history, unasked]
      rfl
    rw [opened] at reported
    cases reported
    exact uncounted _

/-- An opened session has just been started. -/
theorem openSession_eq_start {path : String} {content : Except FileError String}
    {configuration : Configuration} {stop : Nat} {session : Session}
    (opened : CommandLine.openSession path content configuration stop = .ok session) :
    ∃ replay registry options, session = start replay registry options := by
  simp only [CommandLine.openSession] at opened
  split at opened
  · cases opened
  · split at opened
    · cases opened
    · cases opened
      exact ⟨_, _, _, rfl⟩

/--
Children are asked for only on demand.

A request makes no more requests for children than it warrants.
A handle is enumerated only by a request for variables that names its own reference.
A report on a frame therefore counts no request for a child, whichever formatter it is about.
-/
theorem children_on_demand :
    (∀ (session : Session) (request : Request Int64), ∃ calls,
      (session.respond request).2.ledger.history = calls.reverse ++ session.ledger.history ∧
        session.Warrants (childRequests calls) request) ∧
    (∀ (session : Session) (request : Request Int64) (slot : Nat) (handle : Handle),
      (session.respond request).2.arena.handle? slot = some handle → handle.isEnumerated = true →
        ∃ earlier, session.arena.handle? slot = some earlier ∧ earlier.target = handle.target ∧
          (earlier.isEnumerated = true ∨ ∃ reference window,
            request = .listVariables reference window ∧
              session.arena.resolve reference = some slot)) ∧
    ∀ (path : String) (content : Except FileError String) (configuration : Configuration)
      (stop frame : Nat) (session : Session),
      CommandLine.openSession path content configuration stop = .ok session →
        (∃ message, CommandLine.inspect session stop frame = CommandLine.runFailure message) ∨
          ∃ (report : Report) (errors : String), (∀ entry ∈ report.tally, entry.2.child = 0) ∧
            CommandLine.inspect session stop frame =
              ⟨0, report.toJson.pretty 0 ++ "\n", errors⟩ := by
  -- The first two parts are what every request demands, and the third follows for two of them.
  refine ⟨?_, ?_, ?_⟩
  · intro session request
    obtain ⟨_, _, ⟨⟨calls, entered, rfl⟩, _⟩, warranted, _⟩ := session.respond_demanded request
    exact ⟨calls, entered.history, warranted⟩
  · intro session request slot handle found enumerated
    obtain ⟨_, _, demanded, _, listed⟩ := session.respond_demanded request
    obtain ⟨earlier, known, same, origin⟩ := demanded.served slot handle found enumerated
    refine ⟨earlier, known, same, origin.imp_right fun there => ?_⟩
    obtain rfl | ⟨reference, window, named, resolved⟩ := listed
    · cases there
    · exact ⟨reference, window, named, resolved.trans there⟩
  · intro path content configuration stop frame session opened
    obtain ⟨replay, registry, options, rfl⟩ := openSession_eq_start opened
    simp only [CommandLine.inspect]
    -- The report is printed unless the frame has no scopes.
    rcases reported : Report.ofFrame (start replay registry options) stop frame with
      error | ⟨report, note⟩
    · exact .inl ⟨_, rfl⟩
    · exact .inr ⟨report, _, ofFrame_tally reported, rfl⟩

end Session

end Inspection
