import Inspection.Proofs.Children.Arena
import Inspection.Session

/-! A visit is a session beside what it has classified and handed out since its last stop ended. -/

namespace Inspection

namespace Session

/-- What can be asked of a session, with references named in any way. -/
inductive Request (ρ : Type) where
  | frames
  | scopes (frame : Nat)
  | listVariables (reference : ρ) (window : Window)
  | evaluate (frame : Nat) (expression : String)
  | classify (value : Value)
  | describe (value : Value)
  | resume (kind : Resumption)
  | resumed
  | stopped (reason : StopReason)
  /-- The program is let run on without the session being told. -/
  | proceed (kind : Resumption)

/-- What a session answers. -/
inductive Answer where
  | frames (answer : Except InspectError (List Frame))
  | scopes (answer : Except InspectError (List Scope))
  | listing (answer : VariablesAnswer)
  | evaluation (answer : Except InspectError Evaluation)
  | classification (answer : Classification)
  | descriptor (answer : Descriptor)
  | arrival (answer : Except InspectError RunState)
  /-- Nothing is answered. -/
  | silence

/-- Lets the program run on without ending the stop. -/
def proceed (session : Session) (kind : Resumption) : Except InspectError RunState × Session :=
  -- What is known of the old stop stays, though the program has left it.
  match session.replay.resume kind with
  | .error error => (.error (.replay error), session)
  | .ok (reached, replay) => (.ok reached, { session with replay })

/-- How a session answers a request. -/
def respond (session : Session) : Request Int64 → Answer × Session
  | .frames => (.frames session.frames, session)
  | .scopes frame => (.scopes (session.scopes frame).1, (session.scopes frame).2)
  | .listVariables reference window =>
    (.listing (session.listVariables reference window).1,
      (session.listVariables reference window).2)
  | .evaluate frame expression =>
    (.evaluation (session.evaluate frame expression).1, (session.evaluate frame expression).2)
  | .classify value => (.classification (session.classify value).1, (session.classify value).2)
  | .describe value => (.descriptor (session.describe value).1, (session.describe value).2)
  | .resume kind => (.arrival (session.resume kind).1, (session.resume kind).2)
  | .resumed => (.silence, session.resumed)
  | .stopped reason => (.silence, session.stopped reason)
  | .proceed kind => (.arrival (session.proceed kind).1, (session.proceed kind).2)

/-- The session after some requests. -/
def after (session : Session) (requests : List (Request Int64)) : Session :=
  requests.foldl (fun session request => (session.respond request).2) session

/-- The descriptors that an answer shows. -/
def Answer.descriptors : Answer → List Descriptor
  | .listing answer => answer.descriptors
  | .evaluation (.ok (.value shown)) => [shown]
  | .descriptor shown => [shown]
  | .frames _ | .scopes _ | .evaluation (.ok (.console _)) | .evaluation (.error _)
  | .classification _ | .arrival _ | .silence => []

/-- The scopes that an answer shows. -/
def Answer.scopeList : Answer → List Scope
  | .scopes (.ok shown) => shown
  | .scopes (.error _) | .frames _ | .listing _ | .evaluation _ | .classification _
  | .descriptor _ | .arrival _ | .silence => []

/-- The elementary steps from which every request is served. -/
inductive Step where
  | classify (value : Value)
  | describe (value : Value)
  /-- A window of children is fetched. -/
  | serve (slot : Nat) (value : Value) (window : Window)
  /-- One child is asked for on a walk. -/
  | follow (value : Value) (key : ChildKey)
  /-- The reference to a frame's locals is given out. -/
  | openFrame (frame : Nat)
  | command (line : String)
  | resumed
  | stopped (reason : StopReason)
  | proceed (kind : Resumption)

/-- Gives out the reference to a frame's locals. -/
def openFrame (session : Session) (frame : Nat) : Int64 × Session :=
  ((session.arena.locals frame).1,
    { session with arena := (session.arena.locals frame).2, fresh := false })

/-- The session after a step. -/
def perform (session : Session) : Step → Session
  | .classify value => (session.classify value).2
  | .describe value => (session.describe value).2
  | .serve slot value window => (session.serve slot value window).2
  | .follow value key => (session.follow value key).2
  | .openFrame frame => (session.openFrame frame).2
  | .command line => (session.runConsole line).2
  | .resumed => session.resumed
  | .stopped reason => session.stopped reason
  | .proceed kind => (session.proceed kind).2

/-- The session after some steps. -/
def performAll (session : Session) (steps : List Step) : Session := steps.foldl perform session

/-- The children among the outcomes of an enumeration. -/
def childrenOf : List ChildOutcome → List Value
  | [] => []
  | .child child :: rest => child :: childrenOf rest
  | .failed _ _ :: rest => childrenOf rest

/-- The steps of a walk, which ends where a child is missing. -/
def walkSteps (session : Session) (current : Value) : List ChildKey → List Step
  | [] => []
  | key :: rest =>
    -- The key that finds no child has been asked for all the same.
    .follow current key ::
      match session.follow current key with
      | (.ok (some child), session) => session.walkSteps child rest
      | (.ok none, _) | (.error _, _) => []

/-- The steps of evaluating a path: the walk, and the description of what it leads to. -/
def pathSteps (session : Session) (frame : Nat) (path : Path) : List Step :=
  match session.replay.locals frame with
  | .error _ => []
  | .ok locals =>
    match locals.find? fun candidate => candidate.name == path.root with
    | none => []
    | some start =>
      -- Only a walk that comes to its end has its value described.
      session.walkSteps start path.keys ++
        match (session.walk start path.root path.keys).1 with
        | .ok value => [.describe value]
        | .error _ => []

/-- The steps of listing what a reference leads to. -/
def listingSteps (session : Session) (reference : Int64) (window : Window) : List Step :=
  match session.target? reference with
  | none => []
  | some (_, .locals frame) =>
    match session.replay.locals frame with
    | .error _ => []
    | .ok locals => (window.select locals).map .describe
  | some (slot, .value value) =>
    -- The children are described in the order in which they were served.
    .serve slot value window :: (childrenOf (session.serve slot value window).1).map .describe

/-- The steps of evaluating an expression. -/
def evaluationSteps (session : Session) (frame : Nat) (expression : String) : List Step :=
  let expression := Text.trim expression
  if expression.toList.head? = some Console.mark then [.command expression]
  else
    match Path.parse? expression with
    | none => []
    | some path => session.pathSteps frame path

/-- The steps of giving out the scopes of a frame. -/
def scopesSteps (session : Session) (frame : Nat) : List Step :=
  match session.replay.frames with
  | .error _ => []
  | .ok frames =>
    if frames.any (fun candidate => candidate.index == frame) then [.openFrame frame] else []

/-- The steps of letting the program run to its next stop. -/
def resumeSteps (session : Session) (kind : Resumption) : List Step :=
  -- The stop ends before anyone knows whether the program can run.
  .resumed ::
    match session.replay.resume kind with
    | .error _ => []
    | .ok (.stopped reason, _) => [.proceed kind, .stopped reason]
    | .ok (.exited, _) => [.proceed kind]

/-- The steps from which a request is served. -/
def steps (session : Session) : Request Int64 → List Step
  | .frames => []
  | .scopes frame => session.scopesSteps frame
  | .listVariables reference window => session.listingSteps reference window
  | .evaluate frame expression => session.evaluationSteps frame expression
  | .classify value => [.classify value]
  | .describe value => [.describe value]
  | .resume kind => session.resumeSteps kind
  | .resumed => [.resumed]
  | .stopped reason => [.stopped reason]
  | .proceed kind => [.proceed kind]

/-- The value that a step classifies before anything else. -/
def Step.subject? : Step → Option Value
  | classify value | describe value | serve _ value _ | follow value _ => some value
  | openFrame _ | command _ | resumed | stopped _ | proceed _ => none

/-- Whether a step drops what is known of the stop. -/
def endsStop (session : Session) : Step → Bool
  | .resumed => true
  -- News of a stop ends the old one unless that has been dropped already.
  | .stopped _ => !session.fresh
  | .classify _ | .describe _ | .serve _ _ _ | .follow _ _ | .openFrame _ | .command _
  | .proceed _ => false

/-- Whether a request drops what is known of the stop. -/
def endsAt {ρ : Type} (session : Session) : Request ρ → Bool
  | .resume _ | .resumed => true
  | .stopped _ => !session.fresh
  | .frames | .scopes _ | .listVariables _ _ | .evaluate _ _ | .classify _ | .describe _
  | .proceed _ => false

end Session

/-- A classification as it was made, with the formatters registered at that moment. -/
structure Ruling where
  value : Value
  registry : Registry
  answer : Classification

/-- Something that a client was given a reference with. -/
inductive Grant where
  | locals (frame : Nat) (reference : Int64)
  | value (value : Value) (descriptor : Descriptor)
  deriving DecidableEq, Repr

namespace Grant

/-- What a reference was given for. -/
def subject : Grant → Subject
  | .locals frame _ => .locals frame
  | .value shown _ => .value shown.id

/-- The reference that was given. -/
def reference : Grant → Int64
  | .locals _ reference => reference
  | .value _ descriptor => descriptor.reference

end Grant

namespace Session

/-- The classification that a step makes. -/
def rulings (session : Session) (step : Step) : List Ruling :=
  match step.subject? with
  | some value => [⟨value, session.registry, (session.classify value).1⟩]
  | none => []

/-- What a step hands out. -/
def grants (session : Session) : Step → List Grant
  | .describe value => [.value value (session.describe value).1]
  | .openFrame frame => [.locals frame (session.openFrame frame).1]
  | .classify _ | .serve _ _ _ | .follow _ _ | .command _ | .resumed | .stopped _
  | .proceed _ => []

end Session

/-- A session and the record of its current stop, oldest entries first. -/
structure Visit where
  session : Session
  /-- The calls made before the stop began, newest first. -/
  before : List Call
  rulings : List Ruling
  grants : List Grant

namespace Visit

/-- A session of whose stop nothing is recorded yet. -/
def ofSession (session : Session) : Visit := ⟨session, session.ledger.history, [], []⟩

/-- The visit after a step: the record starts anew where the stop ends. -/
def perform (visit : Visit) (step : Session.Step) : Visit :=
  let session := visit.session.perform step
  if visit.session.endsStop step then ofSession session
  else ⟨session, visit.before, visit.rulings ++ visit.session.rulings step,
    visit.grants ++ visit.session.grants step⟩

/-- The visit after some steps. -/
def performAll (visit : Visit) (steps : List Session.Step) : Visit := steps.foldl perform visit

/-- The visit after a request. -/
def ask (visit : Visit) (request : Session.Request Int64) : Visit :=
  visit.performAll (visit.session.steps request)

/-- The visit after some requests. -/
def askAll (visit : Visit) (requests : List (Session.Request Int64)) : Visit :=
  requests.foldl ask visit

/-- A visit of a new session. -/
def start (replay : Replay) (registry : Registry) (options : SessionOptions) : Visit :=
  ofSession (Session.start replay registry options)

end Visit

namespace Session

variable (session : Session)

/-- Steps are taken one after the other. -/
theorem performAll_cons (step : Step) (rest : List Step) :
    session.performAll (step :: rest) = (session.perform step).performAll rest := rfl

/-- A step that ends the stop leaves nothing but the replay, the formatters and what is counted. -/
theorem perform_of_end {step : Step} (ends : session.endsStop step = true) :
    ∃ stop, session.perform step = { session.invalidate with stop } := by
  -- Only letting the program run and news of a stop can end one.
  cases step with
  | resumed => exact ⟨none, rfl⟩
  | stopped reason =>
    -- Something has been handed out, so the old stop is forgotten before the new one begins.
    have used : session.fresh = false := by simpa only [endsStop, Bool.not_eq_true'] using ends
    refine ⟨some reason, ?_⟩
    simp only [perform, Session.stopped, used, Bool.false_eq_true, if_false]
  | classify _ | describe _ | serve _ _ _ | follow _ _ | openFrame _ | command _ | proceed _ =>
    cases ends

variable {session} in
/-- Where nothing has been handed out since, a new stop changes nothing but its reason. -/
theorem perform_stopped {reason : StopReason} (stays : session.endsStop (.stopped reason) = false) :
    session.perform (.stopped reason) = { session with stop := some reason } := by
  -- Nothing is dropped where nothing was handed out.
  have fresh : session.fresh = true := by simpa only [endsStop, Bool.not_eq_false'] using stays
  simp only [perform, Session.stopped, fresh, if_true]

variable {session} in
/-- A reference that leads to a target resolves to the place of a handle for it. -/
theorem resolve_of_target {reference : Int64} {slot : Nat} {target : HandleTarget}
    (leads : session.target? reference = some (slot, target)) :
    session.arena.resolve reference = some slot ∧
      ∃ handle, session.arena.handle? slot = some handle ∧ handle.target = target := by
  -- The target was read off the handle at that place.
  simp only [target?, Option.bind_eq_bind, Option.pure_def] at leads
  obtain ⟨place, resolved, leads⟩ := Option.bind_eq_some_iff.mp leads
  obtain ⟨handle, found, same⟩ := Option.bind_eq_some_iff.mp leads
  cases same
  exact ⟨resolved, handle, found, rfl⟩

variable {session} in
/-- A reference that resolves to the place of a handle leads to its target. -/
theorem target_of_resolve {reference : Int64} {slot : Nat} {handle : Handle}
    (resolved : session.arena.resolve reference = some slot)
    (found : session.arena.handle? slot = some handle) :
    session.target? reference = some (slot, handle.target) := by
  -- The handle at the place tells the target.
  simp only [target?, resolved, found, Option.bind_eq_bind, Option.bind_some, Option.pure_def]

variable {session} in
/-- A reference that leads to a value lists a window of its children. -/
theorem listVariables_of_target {reference : Int64} {slot : Nat} {value : Value}
    (leads : session.target? reference = some (slot, .value value)) (window : Window) :
    session.listVariables reference window = session.expand slot value window := by
  -- The target alone decides what is listed.
  simp only [listVariables, leads]

/-- Steps in two runs are taken one run after the other. -/
theorem performAll_append (first second : List Step) :
    session.performAll (first ++ second) = (session.performAll first).performAll second :=
  List.foldl_append

/-- Describing values one by one is taking the steps of describing them. -/
theorem describeAll_performAll (values : List Value) :
    (session.describeAll values).2 = session.performAll (values.map .describe) := by
  -- Each element of the list is one step.
  induction values generalizing session with
  | nil => rfl
  | cons value rest ih => exact ih (session.describe value).2

/-- Presenting outcomes takes the steps of describing the children among them. -/
theorem present_performAll (outcomes : List ChildOutcome) :
    (session.present outcomes).2 = session.performAll ((childrenOf outcomes).map .describe) := by
  -- A failed outcome is shown without a step.
  induction outcomes generalizing session with
  | nil => rfl
  | cons outcome rest ih =>
    cases outcome with
    | child child => exact ih (session.describe child).2
    | failed index error => exact ih session

/-- Walking takes the steps of the walk. -/
theorem walk_performAll (current : Value) (walked : String) (keys : List ChildKey) :
    (session.walk current walked keys).2 = session.performAll (session.walkSteps current keys) := by
  -- The walk and its steps end at the same missing child.
  induction keys generalizing session current walked with
  | nil => rfl
  | cons key rest ih =>
    simp only [walk, walkSteps, performAll_cons]
    rcases followed : session.follow current key with ⟨answer, next⟩
    -- Following the key is the first step of both.
    have here : session.perform (.follow current key) = next := by simp [perform, followed]
    rw [here]
    rcases answer with error | child
    · rfl
    · cases child with
      | none => rfl
      | some child => exact ih next child _

/-- Evaluating a path takes the steps of the path. -/
theorem evaluatePath_performAll (frame : Nat) (path : Path) :
    (session.evaluatePath frame path).2 = session.performAll (session.pathSteps frame path) := by
  -- The path fails before the walk, on the walk or not at all.
  unfold evaluatePath reach pathSteps
  cases session.replay.locals frame with
  | error error => rfl
  | ok locals =>
    simp only
    cases locals.find? fun candidate => candidate.name == path.root with
    | none => rfl
    | some start =>
      simp only [performAll_append, ← session.walk_performAll start path.root path.keys]
      -- After the walk only the description of its end is left.
      rcases session.walk start path.root path.keys with ⟨answer, next⟩
      cases answer <;> rfl

/-- Evaluating an expression takes the steps of the expression. -/
theorem evaluate_performAll (frame : Nat) (expression : String) :
    (session.evaluate frame expression).2 =
      session.performAll (session.evaluationSteps frame expression) := by
  -- A console line is one step, and a path takes its own.
  simp only [evaluate, evaluationSteps]
  split
  · -- The mark tells the two apart for both.
    rfl
  · cases Path.parse? (Text.trim expression) with
    | none => rfl
    | some path => exact session.evaluatePath_performAll frame path

/-- Listing takes the steps of the listing. -/
theorem listVariables_performAll (reference : Int64) (window : Window) :
    (session.listVariables reference window).2 =
      session.performAll (session.listingSteps reference window) := by
  -- The target decides whether values are described or children served first.
  simp only [listVariables, listingSteps]
  rcases session.target? reference with _ | ⟨slot, target⟩
  · rfl
  · cases target with
    | locals frame =>
      simp only
      cases session.replay.locals frame with
      | error error => rfl
      | ok locals => exact session.describeAll_performAll _
    | value value => exact (session.serve slot value window).2.present_performAll _

/-- Giving out scopes takes at most the step of opening the frame. -/
theorem scopes_performAll (frame : Nat) :
    (session.scopes frame).2 = session.performAll (session.scopesSteps frame) := by
  -- Only a frame that is there is opened.
  simp only [scopes, scopesSteps]
  cases session.replay.frames with
  | error error => rfl
  | ok frames =>
    simp only
    split <;> rfl

/-- Letting the program run takes the steps of ending one stop and beginning the next. -/
theorem resume_performAll (kind : Resumption) :
    (session.resume kind).2 = session.performAll (session.resumeSteps kind) := by
  -- The stop ends before the program is moved, so a failed move has ended it too.
  have same : session.resumed.replay = session.replay := rfl
  simp only [resume, resumeSteps, same, performAll_cons]
  cases moved : session.replay.resume kind with
  | error error => rfl
  | ok arrival =>
    rcases arrival with ⟨reached, replay⟩
    -- A stop that is reached is announced, and an end is not.
    cases reached <;>
      simp [performAll, perform, proceed, same, moved]

/-- A request leaves the session that its steps lead to. -/
theorem respond_performAll (request : Request Int64) :
    (session.respond request).2 = session.performAll (session.steps request) := by
  -- Most requests are one step; the others have been followed above.
  cases request with
  | frames | classify _ | describe _ | resumed | stopped _ | proceed _ => rfl
  | scopes frame => exact session.scopes_performAll frame
  | listVariables reference window => exact session.listVariables_performAll reference window
  | evaluate frame expression =>
    simp only [respond, steps]
    exact session.evaluate_performAll frame expression
  | resume kind => exact session.resume_performAll kind

section every

variable {session} {Holds : Step → Prop}

/-- What holds of every description holds of all steps of describing some values. -/
theorem forall_describes (described : ∀ value, Holds (.describe value)) (values : List Value) :
    ∀ step ∈ values.map Step.describe, Holds step := by
  -- Each of the steps describes one of the values.
  intro step member
  obtain ⟨value, _, rfl⟩ := List.mem_map.mp member
  exact described value

/-- What holds of every request for a child holds of all steps of a walk. -/
theorem forall_walkSteps (followed : ∀ value key, Holds (.follow value key)) (current : Value)
    (keys : List ChildKey) : ∀ step ∈ session.walkSteps current keys, Holds step := by
  -- The induction is on the keys, each of which is asked for.
  induction keys generalizing session current with
  | nil => exact List.forall_mem_nil _
  | cons key rest ih =>
    refine List.forall_mem_cons.mpr ⟨followed current key, ?_⟩
    -- The walk goes on only from a child that was found.
    split
    · exact ih _
    · exact List.forall_mem_nil _
    · exact List.forall_mem_nil _

/-- What holds of requests for children and of descriptions holds of all steps of a path. -/
theorem forall_pathSteps (followed : ∀ value key, Holds (.follow value key))
    (described : ∀ value, Holds (.describe value)) (frame : Nat) (path : Path) :
    ∀ step ∈ session.pathSteps frame path, Holds step := by
  -- There are steps only for a variable that is found, and they begin with the walk.
  unfold pathSteps
  split
  · exact List.forall_mem_nil _
  · split
    · exact List.forall_mem_nil _
    · refine List.forall_mem_append.mpr ⟨forall_walkSteps followed _ _, ?_⟩
      -- At most the end of the walk is described.
      split
      · exact List.forall_mem_singleton.mpr (described _)
      · exact List.forall_mem_nil _

end every

end Session

namespace Visit

variable (visit : Visit)

/-- A step of a visit is a step of its session. -/
@[simp] theorem perform_session (step : Session.Step) :
    (visit.perform step).session = visit.session.perform step := by
  -- The record is kept beside the session and never looked at.
  simp only [perform]
  split <;> rfl

/-- The steps of a visit are those of its session. -/
theorem performAll_session (steps : List Session.Step) :
    (visit.performAll steps).session = visit.session.performAll steps := by
  -- The induction is on the steps, each of which is one of the session.
  induction steps generalizing visit with
  | nil => rfl
  | cons step rest ih =>
    have next := ih (visit.perform step)
    rw [perform_session] at next
    exact next

/-- A visit follows the answers of its session. -/
theorem ask_session (request : Session.Request Int64) :
    (visit.ask request).session = (visit.session.respond request).2 := by
  -- Both follow the steps of the request.
  rw [ask, performAll_session, Session.respond_performAll]

/-- A visit follows its session through any requests. -/
theorem askAll_session (requests : List (Session.Request Int64)) :
    (visit.askAll requests).session = visit.session.after requests := by
  -- The induction is on the requests, from the visit that the first one leaves.
  induction requests generalizing visit with
  | nil => rfl
  | cons request rest ih =>
    have next := ih (visit.ask request)
    rw [ask_session] at next
    exact next

variable {visit}

/-- What every step preserves holds after any number of steps. -/
theorem performAll_invariant {Holds : Visit → Prop}
    (kept : ∀ visit step, Holds visit → Holds (visit.perform step)) (holds : Holds visit)
    (steps : List Session.Step) : Holds (visit.performAll steps) := by
  -- The induction is on the steps, from any visit of which the property holds.
  induction steps generalizing visit with
  | nil => exact holds
  | cons step rest ih => exact ih (kept visit step holds)

/-- What every step preserves holds after any requests. -/
theorem askAll_invariant {Holds : Visit → Prop}
    (kept : ∀ visit step, Holds visit → Holds (visit.perform step)) (holds : Holds visit)
    (requests : List (Session.Request Int64)) : Holds (visit.askAll requests) := by
  -- The induction is on the requests, each of which is some steps.
  induction requests generalizing visit with
  | nil => exact holds
  | cons request rest ih => exact ih (performAll_invariant kept holds _)

end Visit

end Inspection
