import Inspection.Proofs.Children.Calls
import Inspection.Proofs.Session.Handles

/-! The counters of a session are exact: they tell of every call that it makes, and of no other. -/

namespace Inspection

/-- The calls that determining a classification makes: a size query where a size is cheap. -/
def Classifications.determineCalls (registry : Registry) (inquiry : Inquiry) (value : Value)
    (history : List Call) : List Call :=
  let provider := registry.resolve value.type.name
  if (provider.formatter.capabilities value.type).isIndexed then
    [inquiry.sizeCall provider value history]
  else []

/-- Determining a classification enters the calls that it makes. -/
theorem Classifications.determine_ledger (registry : Registry) (inquiry : Inquiry) (value : Value)
    (ledger : Ledger) :
    (determine registry inquiry value ledger).2 =
      ledger.enterAll (determineCalls registry inquiry value ledger.history) := by
  have sized := inquiry.size_ledger (registry.resolve value.type.name) value ledger
  simp only [determine, determineCalls]
  split
  · -- The query is entered whether or not it succeeds.
    rw [← sized]
    cases (inquiry.size (registry.resolve value.type.name) value ledger).1 <;> rfl
  · split <;> rfl

namespace Session

/-- The calls that classifying a value makes; for a value that is known there are none. -/
def classifyCalls (session : Session) (value : Value) : List Call :=
  match session.known.lookup value.id with
  | some _ => []
  | none => Classifications.determineCalls session.registry session.inquiry value
      session.ledger.history

/-- The calls that asking for a summary makes. -/
def summaryCalls (session : Session) (classification : Classification) (value : Value) :
    List Call :=
  if classification.provider.isNative then []
  else [session.inquiry.summaryCall classification.provider value session.ledger.history]

/-- The calls that a classified session makes to serve a window of children. -/
def windowCalls (session : Session) (classification : Classification) (slot : Nat)
    (window : Window) : List Call :=
  match session.arena.handle? slot with
  | none => []
  | some handle => handle.windowCalls classification.kind (childProvider classification) window
      session.options.maxNamed session.inquiry session.ledger

/-- The calls that a step makes, oldest first. -/
def calls (session : Session) : Step → List Call
  | .classify value => session.classifyCalls value
  | .describe value =>
    let (classification, classified) := session.classify value
    session.classifyCalls value ++ classified.summaryCalls classification value
  | .serve slot value window =>
    let (classification, classified) := session.classify value
    session.classifyCalls value ++ classified.windowCalls classification slot window
  | .follow value key =>
    let (classification, classified) := session.classify value
    session.classifyCalls value ++
      [classified.inquiry.childCall (childProvider classification) value key
        classified.ledger.history]
  | .openFrame _ | .command _ | .resumed | .stopped _ | .proceed _ => []

/-- Whether a step sets the counters to zero. -/
def Step.zeroes : Step → Bool
  | .command line =>
    match Console.parse line with
    | .ok .reset => true
    | .ok _ | .error _ => false
  | .classify _ | .describe _ | .serve _ _ _ | .follow _ _ | .openFrame _ | .resumed | .stopped _
  | .proceed _ => false

variable (session : Session) (value : Value)

/-- Classifying a value enters the calls that it makes. -/
theorem classify_ledger : (session.classify value).2.ledger =
    session.ledger.enterAll (session.classifyCalls value) := by
  -- A value that is known is looked up, and any other is classified anew.
  cases known : session.known.lookup value.id with
  | some classification =>
    rw [session.classify_of_known value known]
    simp only [classifyCalls, known]
    rfl
  | none =>
    simp only [classify, Classifications.classify, classifyCalls, known]
    exact Classifications.determine_ledger ..

/-- Asking for a summary enters the calls that it makes. -/
theorem summary_ledger (classification : Classification) :
    (session.summary classification value).2.ledger =
      session.ledger.enterAll (session.summaryCalls classification value) := by
  -- The native formatter is not asked for a summary.
  simp only [summary, summaryCalls]
  split <;> rfl

/-- A console line leaves the ledger as it is, unless it zeroes the counters. -/
theorem command_ledger (line : String) : (session.runConsole line).2.ledger =
    if (Step.command line).zeroes then session.ledger.reset else session.ledger := by
  cases parsed : Console.parse line with
  -- A line that is not understood does nothing.
  | error error =>
    simp only [runConsole, Console.run, Step.zeroes, parsed]
    rfl
  | ok command =>
    -- Of all commands only the reset touches the ledger.
    cases command with
    | delete name =>
      simp only [runConsole, Console.run, Step.zeroes, parsed, Console.execute]
      split <;> rfl
    | help | list | counters | sizeCalls | clear | reset =>
      simp only [runConsole, Console.run, Step.zeroes, parsed]
      rfl

example : (Step.command "`formatter reset").zeroes = true := rfl

/-- A step enters the calls that it makes, or zeroes the counters. -/
theorem perform_ledger (step : Step) : (session.perform step).ledger =
    if step.zeroes then session.ledger.reset
    else session.ledger.enterAll (session.calls step) := by
  -- A step about a value classifies it first, and whatever else it asks comes after that.
  cases step with
  | classify value => exact session.classify_ledger value
  | describe value =>
    have summarised := (session.classify value).2.summary_ledger value (session.classify value).1
    simp only [calls, Step.zeroes, Bool.false_eq_true, if_false, Ledger.enterAll_append]
    rw [← session.classify_ledger value, ← summarised]
    rfl
  | serve slot value window =>
    simp only [calls, Step.zeroes, Bool.false_eq_true, if_false, Ledger.enterAll_append]
    rw [← session.classify_ledger value]
    simp only [perform, serve, windowCalls]
    cases (session.classify value).2.arena.handle? slot with
    | none => rfl
    | some handle => exact Handle.enumerate_ledger ..
  | follow value key =>
    simp only [calls, Step.zeroes, Bool.false_eq_true, if_false, Ledger.enterAll_append]
    rw [← session.classify_ledger value]
    exact Inquiry.child_ledger ..
  | command line => exact session.command_ledger line
  | openFrame _ | resumed => rfl
  -- Forgetting a stop forgets no call.
  | stopped reason =>
    simp only [perform, Session.stopped]
    split <;> rfl
  | proceed kind =>
    obtain ⟨replay, left⟩ := session.proceed_frame kind
    simp only [perform, left]
    rfl

variable {session value}

/-- Classifying a value that is known makes no call. -/
theorem classifyCalls_of_known (known : (session.known.lookup value.id).isSome = true) :
    session.classifyCalls value = [] := by
  -- What is known is looked up.
  obtain ⟨classification, found⟩ := Option.isSome_iff_exists.mp known
  simp only [classifyCalls, found]

/-- Classifying a value asks for no child. -/
theorem key?_of_classifyCalls {call : Call} (member : call ∈ session.classifyCalls value) :
    call.key? = none := by
  -- The only call that classifying makes is a size query.
  simp only [classifyCalls, Classifications.determineCalls] at member
  split at member
  · cases member
  · split at member
    · rw [List.mem_singleton.mp member]
      rfl
    · cases member

/-- Every call of a window is a request for a child that its handle does not remember. -/
theorem mem_windowCalls {classification : Classification} {slot : Nat} {window : Window}
    {call : Call} (member : call ∈ session.windowCalls classification slot window) :
    ∃ handle position, session.arena.handle? slot = some handle ∧
      handle.child? position = none ∧ call.key? = some (.position position) := by
  -- Only the handle that is there makes calls.
  simp only [windowCalls] at member
  split at member
  · cases member
  · rename_i handle found
    obtain ⟨position, unknown, asks⟩ := Handle.mem_windowCalls member
    exact ⟨handle, position, found, unknown, asks⟩

/-- Serving a window through a handle asks for no child that the handle remembers. -/
theorem unknown_of_serve {slot : Nat} {handle : Handle} {window : Window} {call : Call}
    (found : session.arena.handle? slot = some handle)
    (member : call ∈ session.calls (.serve slot value window)) {index : Nat}
    (asks : call.key? = some (.position index)) : handle.child? index = none := by
  rcases List.mem_append.mp member with classifying | serving
  · -- The calls of the classification ask for no position.
    rw [key?_of_classifyCalls classifying] at asks
    cases asks
  · -- Classifying the value has left the handle as it was.
    obtain ⟨served, position, same, unknown, key⟩ := mem_windowCalls serving
    have found : some handle = some served := found.symm.trans same
    cases found
    rw [asks] at key
    cases key
    exact unknown

/-- A step about a value that is known makes no size query. -/
theorem isSize_of_known {step : Step} (about : step.subject? = some value)
    (known : (session.known.lookup value.id).isSome = true) :
    ∀ call ∈ session.calls step, call.isSize = false := by
  -- The classification makes no call, and whatever comes after it asks for no size.
  have none := classifyCalls_of_known known
  intro call member
  cases step with
  | classify other =>
    cases about
    simp only [calls, none] at member
    cases member
  | describe other =>
    cases about
    simp only [calls, none, List.nil_append, summaryCalls] at member
    split at member
    · cases member
    · rw [List.mem_singleton.mp member]
      rfl
  | serve slot other window =>
    cases about
    simp only [calls, none, List.nil_append] at member
    obtain ⟨_, position, _, _, asks⟩ := mem_windowCalls member
    -- What has a key is a request for a child.
    cases call with
    | size _ _ _ => cases asks
    | child _ _ _ _ | summary _ _ _ => rfl
  | follow other key =>
    cases about
    simp only [calls, none, List.nil_append] at member
    rw [List.mem_singleton.mp member]
    rfl
  | openFrame _ | command _ | resumed | stopped _ | proceed _ => cases about

end Session

/-- A session beside the calls that it has made since its counters were zeroed, oldest first. -/
structure Journal where
  session : Session
  made : List Call

namespace Journal

/-- The journal of a new session. -/
def start (replay : Replay) (registry : Registry) (options : SessionOptions) : Journal :=
  ⟨Session.start replay registry options, []⟩

/-- The journal after a step: it begins anew where the counters are zeroed. -/
def perform (journal : Journal) (step : Session.Step) : Journal :=
  ⟨journal.session.perform step,
    if step.zeroes then [] else journal.made ++ journal.session.calls step⟩

/-- The journal after a request. -/
def ask (journal : Journal) (request : Session.Request Int64) : Journal :=
  (journal.session.steps request).foldl perform journal

/-- The journal after some requests. -/
def askAll (journal : Journal) (requests : List (Session.Request Int64)) : Journal :=
  requests.foldl ask journal

/-- The counters of the session tell of exactly the calls of the journal. -/
def Tells (journal : Journal) : Prop := journal.session.ledger.Tells journal.made

variable {journal : Journal}

/-- Every step leaves a journal that the counters tell of. -/
theorem Tells.perform (tells : journal.Tells) (step : Session.Step) :
    (journal.perform step).Tells := by
  -- Where the counters are zeroed the journal begins anew, else the calls of the step are added.
  simp only [Tells, Journal.perform, Session.perform_ledger]
  cases step.zeroes with
  | true => exact .of_zeroed journal.session.ledger.history
  | false => exact Ledger.Tells.enterAll tells _

/-- Steps leave the session that they lead to, and a journal that the counters tell of. -/
theorem foldl_perform (tells : journal.Tells) (steps : List Session.Step) :
    (steps.foldl Journal.perform journal).session = journal.session.performAll steps ∧
      (steps.foldl Journal.perform journal).Tells := by
  -- The induction is on the steps, from the journal that the first one leaves.
  induction steps generalizing journal with
  | nil => exact ⟨rfl, tells⟩
  | cons step rest ih => exact ih (tells.perform step)

/-- Requests leave the session that answers them, and a journal that the counters tell of. -/
theorem askAll_tells (tells : journal.Tells) (requests : List (Session.Request Int64)) :
    (journal.askAll requests).session = journal.session.after requests ∧
      (journal.askAll requests).Tells := by
  -- The induction is on the requests, each of which is some steps.
  induction requests generalizing journal with
  | nil => exact ⟨rfl, tells⟩
  | cons request rest ih =>
    obtain ⟨same, kept⟩ := foldl_perform tells (journal.session.steps request)
    have later := ih kept
    rw [same, ← Session.respond_performAll] at later
    exact later

/--
The counters of a session are the numbers of the calls made since they were last zeroed.

The calls are those of every step in turn, whatever came back, and a zeroing forgets them.
What has been classified is not asked for its size again, nor a remembered child asked for.
-/
theorem counters_exact (replay : Replay) (registry : Registry) (options : SessionOptions)
    (requests : List (Session.Request Int64)) :
    let journal := (start replay registry options).askAll requests
    let session := journal.session
    session = (Session.start replay registry options).after requests ∧
      (∀ name, session.ledger.counts name =
        ⟨journal.made.countP fun call => call.isSize && call.source.name == name,
          journal.made.countP fun call => call.isChild && call.source.name == name,
          journal.made.countP fun call => call.timedOut && call.source.name == name⟩) ∧
      session.ledger.sizeLog =
        (journal.made.filter Call.isSize).map (fun call => call.value.type.name) ∧
      ∑ᶠ name, (session.ledger.counts name).size = session.ledger.sizeLog.length ∧
      (∀ step value, step.subject? = some value →
        (session.known.lookup value.id).isSome = true →
          ∀ call ∈ session.calls step, call.isSize = false) ∧
      ∀ slot handle, session.arena.handle? slot = some handle →
        ∀ value window, ∀ call ∈ session.calls (.serve slot value window),
          ∀ index, call.key? = some (.position index) → handle.child? index = none := by
  -- The counters of a new session tell of no call, and every request keeps them exact.
  intro journal session
  have begun : (start replay registry options).Tells := .of_zeroed []
  obtain ⟨same, tells⟩ := askAll_tells begun requests
  refine ⟨same, tells.counts, tells.sizeLog, tells.sum_sizes, ?_, ?_⟩
  · exact fun step value about known => Session.isSize_of_known about known
  · exact fun slot handle found value window call member index asks =>
      Session.unknown_of_serve found member asks

end Journal

end Inspection
