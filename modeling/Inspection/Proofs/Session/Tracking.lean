import Inspection.Proofs.Children.Tracking
import Inspection.Proofs.Session.Accounting
import Inspection.Proofs.Session.Program

/-! Between requests every handle is in step with what the session knows of its target. -/

namespace Inspection

namespace Session

variable {session later : Session} {before : List Call} {handle : Handle} {slot : Nat}

/--
A handle is in step with what a session knows, given the calls that were made before its stop.

The handle of a frame is as it was made.
That of a value tracks the classification, and what it remembers was given since the stop began.
-/
def InStep (session : Session) (before : List Call) (handle : Handle) : Prop :=
  match handle.target with
  | .locals frame => handle = .fresh (.locals frame)
  | .value value =>
    ∃ classification, session.known.lookup value.id = some classification ∧
      handle.Tracks classification.kind fun index child =>
        (childProvider classification).Gave session.replay.stops session.options.budget before
          value index child session.ledger.history

/-- A handle of a value is in step exactly if it tracks what is known of the value. -/
theorem inStep_iff {value : Value} (target : handle.target = .value value) :
    session.InStep before handle ↔
      ∃ classification, session.known.lookup value.id = some classification ∧
        handle.Tracks classification.kind fun index child =>
          (childProvider classification).Gave session.replay.stops session.options.budget before
            value index child session.ledger.history := by
  -- The target decides which case of the definition applies.
  simp only [InStep, target]

/-- A fresh handle of a frame is in step with whatever is known. -/
theorem inStep_locals (session : Session) (before : List Call) (frame : Nat) :
    session.InStep before (.fresh (.locals frame)) := rfl

/-- A handle stays in step as more is known and more calls are made. -/
theorem InStep.mono (inStep : session.InStep before handle)
    (known : ∀ id classification, session.known.lookup id = some classification →
      later.known.lookup id = some classification)
    (program : later.replay.stops = session.replay.stops ∧ later.options = session.options)
    (grown : session.ledger.history <:+ later.ledger.history) : later.InStep before handle := by
  -- The handle of a frame says nothing that could change.
  cases target : handle.target with
  | locals frame =>
    simp only [InStep, target] at inStep ⊢
    exact inStep
  | value value =>
    -- The classification is still known, and whatever was given has been given still.
    obtain ⟨classification, found, tracks⟩ := (inStep_iff target).mp inStep
    refine (inStep_iff target).mpr ⟨classification, known _ _ found, tracks.mono ?_⟩
    rw [program.1, program.2]
    exact fun index child gave => gave.mono grown

/-- No step forgets a call. -/
theorem history_perform (session : Session) (step : Step) :
    session.ledger.history <:+ (session.perform step).ledger.history := by
  -- Zeroing the counters keeps the calls, and every other step adds its own.
  rw [perform_ledger]
  split
  · rw [Ledger.history_reset]
  · rw [Ledger.history_enterAll]
    exact List.suffix_append ..

/-- A step within a stop leaves every handle in step that it does not change. -/
theorem InStep.perform (inStep : session.InStep before handle) (formed : session.arena.WellFormed)
    {step : Step} (stays : session.endsStop step = false) :
    (session.perform step).InStep before handle :=
  -- Within a stop knowledge and history only grow, and the program stays.
  inStep.mono (perform_grows formed stays).2.known (session.perform_program step)
    (session.history_perform step)

/-- A step serves a window only through a handle of the value that is asked for its children. -/
def Aims (session : Session) : Step → Prop
  | .serve slot value _ => ∃ handle, session.arena.handle? slot = some handle ∧
      handle.target = .value value
  | .classify _ | .describe _ | .follow _ _ | .openFrame _ | .command _ | .resumed | .stopped _
  | .proceed _ => True

/-- Where a handle comes from that stands at a place after a step within a stop. -/
inductive Comes (session : Session) (slot : Nat) : Step → Handle → Prop where
  | kept {step : Step} {handle : Handle} (found : session.arena.handle? slot = some handle) :
      Comes session slot step handle
  | opened (frame : Nat) : Comes session slot (.openFrame frame) (.fresh (.locals frame))
  /-- A value that is described for the first time gets a handle that is marked at once. -/
  | offered (value : Value) :
      Comes session slot (.describe value)
        ((Handle.fresh (.value value)).markClassified (session.classify value).1.kind)
  | marked {value : Value} {old : Handle} (found : session.arena.handle? slot = some old)
      (subject : old.target.subject = .value value.id) :
      Comes session slot (.describe value)
        (old.markClassified (session.classify value).1.kind)
  | served {value : Value} {window : Window} {old : Handle}
      (found : session.arena.handle? slot = some old) (target : old.target = .value value) :
      Comes session slot (.serve slot value window)
        (old.enumerate (session.classify value).1.kind
          (childProvider (session.classify value).1) window session.options.maxNamed
          session.inquiry (session.classify value).2.ledger).handle

/-- Every handle after a step within a stop comes from somewhere. -/
theorem comes_of_perform (formed : session.arena.WellFormed) {step : Step}
    (stays : session.endsStop step = false) (aims : session.Aims step)
    (found : (session.perform step).arena.handle? slot = some handle) :
    session.Comes slot step handle := by
  -- Only a description, a window and the opening of a frame touch the arena.
  cases step with
  | classify _ | follow _ _ => exact .kept found
  | describe value =>
    -- The described value may get a handle, or have its handle marked.
    obtain ⟨summary, ledger, left⟩ := session.describe_eq value
    simp only [perform, left] at found
    rcases Arena.handle?_describe formed found with same | ⟨old, rfl, rfl | ⟨there, subject⟩⟩
    · exact .kept same
    · exact .offered value
    · exact .marked there subject
  | serve place value window =>
    -- A window changes the handle that it aims at, and no other.
    obtain ⟨old, there, target⟩ := aims
    simp only [perform, serve_of_handle there, Arena.handle?_setHandle] at found
    split at found
    · rename_i same
      subst same
      rw [there] at found
      cases found
      exact .served there target
    · exact .kept found
  | openFrame frame =>
    simp only [perform, openFrame, Arena.locals] at found
    cases placed : session.arena.byFrame.lookup frame with
    | some place =>
      simp only [Arena.slotForLocals, placed] at found
      exact .kept found
    | none =>
      -- A frame that is opened for the first time gets a handle at the end.
      have handles := (Arena.slotForLocals_adds placed).handles
      simp only [Arena.handle?, handles, Array.getElem?_push] at found
      -- The last handle is the new one.
      split at found
      · cases found
        exact .opened frame
      · exact .kept found
  | command line =>
    obtain ⟨registry, ledger, left, _⟩ := session.runConsole_frame line
    simp only [perform, left] at found
    exact .kept found
  | resumed => cases stays
  | stopped reason =>
    rw [perform_stopped stays] at found
    exact .kept found
  | proceed kind =>
    obtain ⟨replay, left⟩ := session.proceed_frame kind
    simp only [perform, left] at found
    exact .kept found

/-- The look-ups of the arena are right, and every handle is in step with what is known. -/
structure Tracking (session : Session) (before : List Call) : Prop where
  formed : session.arena.WellFormed
  since : before <:+ session.ledger.history
  handles : session.arena.All (session.InStep before)

/-- Where there is no handle every one is in step. -/
theorem tracking_of_empty (formed : session.arena.WellFormed)
    (empty : session.arena.handles = #[]) : session.Tracking session.ledger.history := by
  -- The calls made so far are those before the stop.
  refine ⟨formed, List.suffix_refl _, fun slot handle found => ?_⟩
  simp [Arena.handle?, empty] at found

/-- Every step within a stop leaves every handle in step. -/
theorem Tracking.perform (tracking : session.Tracking before) {step : Step}
    (stays : session.endsStop step = false) (aims : session.Aims step) :
    (session.perform step).Tracking before := by
  -- A handle that the step does not change stays in step, and the others are followed up.
  have grows := (perform_grows tracking.formed stays).2
  refine ⟨(perform_grows tracking.formed stays).1,
    tracking.since.trans (session.history_perform step), fun slot handle found => ?_⟩
  cases comes_of_perform tracking.formed stays aims found with
  | kept there => exact (tracking.handles slot handle there).perform tracking.formed stays
  | opened frame => exact inStep_locals _ before frame
  | offered value =>
    obtain ⟨summary, ledger, left⟩ := session.describe_eq value
    -- The kind that the new handle is marked with has just become known.
    refine (inStep_iff (Handle.markClassified_target ..)).mpr
      ⟨(session.classify value).1, ?_, .fresh _ _ _⟩
    simp only [Session.perform, left]
    exact session.classify_lookup value
  | @marked value old there subject =>
    have inStep := tracking.handles slot old there
    cases target : old.target with
    | locals frame =>
      rw [target] at subject
      cases subject
    | value other =>
      -- The kind has been recorded before, so the handle is what it was.
      obtain ⟨_, _, tracks⟩ := (inStep_iff target).mp inStep
      rw [tracks.markClassified]
      exact inStep.perform tracking.formed stays
  | @served value window old there target =>
    obtain ⟨classification, known, tracks⟩ :=
      (inStep_iff target).mp (tracking.handles slot old there)
    -- The window is served in the way of the classification that the handle tracks.
    have classified := session.classify_of_known value known
    have framed := (Handle.enumerate_frame old (session.classify value).1.kind
      (childProvider (session.classify value).1) window session.options.maxNamed session.inquiry
      (session.classify value).2.ledger).1
    refine (inStep_iff (framed.trans target)).mpr ⟨classification, grows.known _ _ known, ?_⟩
    simp only [Session.perform, serve_of_handle there, classified]
    exact Handle.Tracks.enumerate target tracking.since tracks window _

/-- Whether a step serves a window of children. -/
def Step.isWindow : Step → Bool
  | serve _ _ _ => true
  | classify _ | describe _ | follow _ _ | openFrame _ | command _ | resumed | stopped _
  | proceed _ => false

/-- A step that serves no window aims at no handle. -/
theorem aims_of_windowless {step : Step} (windowless : step.isWindow = false) (session : Session) :
    session.Aims step := by
  -- Only a window aims at anything.
  cases step with
  | serve _ _ _ => cases windowless
  | classify _ | describe _ | follow _ _ | openFrame _ | command _ | resumed | stopped _
  | proceed _ => trivial

/-- Only the first step of a request can serve a window, and it aims at a handle then. -/
theorem aims_of_steps {request : Request Int64} {step : Step} {rest : List Step}
    (taken : session.steps request = step :: rest) :
    session.Aims step ∧ ∀ later ∈ rest, later.isWindow = false := by
  -- Of all requests only a listing serves a window.
  have windowless : (∀ step ∈ session.steps request, step.isWindow = false) →
      session.Aims step ∧ ∀ later ∈ rest, later.isWindow = false := by
    intro none
    rw [taken] at none
    obtain ⟨first, others⟩ := List.forall_mem_cons.mp none
    exact ⟨aims_of_windowless first session, others⟩
  cases request with
  | frames => exact windowless (List.forall_mem_nil _)
  | classify _ | describe _ | resumed | stopped _ | proceed _ =>
    exact windowless (List.forall_mem_singleton.mpr rfl)
  | scopes frame =>
    -- A frame is opened, if it is listed.
    apply windowless
    simp only [steps, scopesSteps]
    split
    · exact List.forall_mem_nil _
    · split
      · exact List.forall_mem_singleton.mpr rfl
      · exact List.forall_mem_nil _
  | evaluate frame expression =>
    apply windowless
    simp only [steps, evaluationSteps]
    split
    · exact List.forall_mem_singleton.mpr rfl
    · split
      · exact List.forall_mem_nil _
      · -- A path is walked by following keys and described in the end.
        exact forall_pathSteps (fun _ _ => rfl) (fun _ => rfl) _ _
  | resume kind =>
    -- Resuming forgets, proceeds and stops.
    apply windowless
    simp only [steps, resumeSteps]
    refine List.forall_mem_cons.mpr ⟨rfl, ?_⟩
    split <;> simp [Step.isWindow]
  | listVariables reference window =>
    simp only [steps, listingSteps] at taken windowless
    rcases leads : session.target? reference with _ | ⟨slot, target⟩
    · rw [leads] at taken
      cases taken
    · cases target with
      | locals frame =>
        -- The locals of a frame are described and not served.
        apply windowless
        rw [leads]
        simp only
        split
        · exact List.forall_mem_nil _
        · exact forall_describes (fun _ => rfl) _
      | value value =>
        -- The window is served through the handle that the reference leads to.
        rw [leads] at taken
        cases taken
        exact ⟨(resolve_of_target leads).2, forall_describes (fun _ => rfl) _⟩

end Session

/-- A later ledger differs by calls of which none asked for the size of one identity. -/
def Ledger.Spares (id : ValueId) (before after : Ledger) : Prop :=
  ∃ calls, after.history = calls ++ before.history ∧ sizeQueries calls id = []

namespace Ledger.Spares

variable {id : ValueId} {first second third : Ledger}

/-- Where no size is asked for, none is of any identity. -/
theorem of_growsWithoutSize (grows : first.GrowsWithoutSize second) : first.Spares id second := by
  -- None of the calls in between is a size query.
  obtain ⟨calls, history, other⟩ := grows
  exact ⟨calls, history, sizeQueries_eq_nil other id⟩

/-- What two stretches leave out is left out by both together. -/
theorem trans (early : first.Spares id second) (late : second.Spares id third) :
    first.Spares id third := by
  -- The calls of the later stretch stand in front.
  obtain ⟨old, oldHistory, oldNone⟩ := early
  obtain ⟨new, newHistory, newNone⟩ := late
  refine ⟨new ++ old, by rw [newHistory, oldHistory, List.append_assoc], ?_⟩
  rw [sizeQueries_append, oldNone, newNone, List.append_nil]

end Ledger.Spares

namespace Session

variable {session : Session} {value : Value} {id : ValueId} {classification : Classification}

/-- Classifying any value asks for no size of an identity that is known. -/
theorem classify_spares (known : session.known.lookup id = some classification) (value : Value) :
    session.ledger.Spares id (session.classify value).2.ledger := by
  cases found : session.known.lookup value.id with
  | some other =>
    rw [session.classify_of_known value found]
    exact .of_growsWithoutSize (.of_history_eq rfl)
  | none =>
    -- The query is about the value, which is another one than the known.
    obtain ⟨queries, _, history, about, _⟩ := session.classify_of_new value found
    refine ⟨queries, history, List.filter_eq_nil_iff.mpr fun call member => ?_⟩
    have different : value.id ≠ id := by
      rintro rfl
      rw [known] at found
      cases found
    simp [(about call member).2, different]

/-- Steps about values ask for no size of an identity that is known. -/
theorem performAll_spares (known : session.known.lookup id = some classification)
    {steps : List Step} (about : ∀ step ∈ steps, ∃ value, step.subject? = some value) :
    session.ledger.Spares id (session.performAll steps).ledger := by
  -- The induction is on the steps, and what is known stays known.
  induction steps generalizing session with
  | nil => exact .of_growsWithoutSize (.of_history_eq rfl)
  | cons step rest ih =>
    obtain ⟨⟨value, subject⟩, later⟩ := List.forall_mem_cons.mp about
    obtain ⟨same, grows⟩ := session.perform_of_subject value subject
    -- The first step classifies its value, and then does more without asking for a size.
    have first := (classify_spares known value).trans (.of_growsWithoutSize grows)
    refine first.trans (ih ?_ later)
    rw [same]
    exact (session.classify_grows value).known _ _ known

/-- Listing the children of a value that is known does not ask for its size. -/
theorem listVariables_spares {reference : Int64} {slot : Nat}
    (leads : session.target? reference = some (slot, .value value))
    (known : session.known.lookup value.id = some classification) (window : Window) :
    session.ledger.Spares value.id (session.listVariables reference window).2.ledger := by
  rw [listVariables_performAll]
  apply performAll_spares known
  -- The window is served for the value, and the children are described.
  simp only [listingSteps, leads]
  refine List.forall_mem_cons.mpr ⟨⟨value, rfl⟩, fun step member => ?_⟩
  obtain ⟨child, _, rfl⟩ := List.mem_map.mp member
  exact ⟨child, rfl⟩

end Session

namespace Visit

variable {visit : Visit}

/-- Every handle is in step with what is known of the stop. -/
def Tracked (visit : Visit) : Prop := visit.session.Tracking visit.before

/-- Every step leaves every handle in step, also where it ends the stop. -/
theorem Tracked.perform (tracked : visit.Tracked) {step : Session.Step}
    (aims : visit.session.Aims step) : (visit.perform step).Tracked := by
  cases ends : visit.session.endsStop step with
  | true =>
    -- No handle outlives the stop.
    simp only [Visit.perform, ends, if_true]
    obtain ⟨stop, left⟩ := visit.session.perform_of_end ends
    rw [left]
    exact Session.tracking_of_empty Arena.wellFormed_of_empty rfl
  | false =>
    simp only [Visit.perform, ends, Bool.false_eq_true, if_false]
    exact Session.Tracking.perform tracked ends aims

/-- Steps that serve no window leave every handle in step. -/
theorem Tracked.performAll (tracked : visit.Tracked) {steps : List Session.Step}
    (windowless : ∀ step ∈ steps, step.isWindow = false) : (visit.performAll steps).Tracked := by
  -- The induction is on the steps, from the visit that the first one leaves.
  induction steps generalizing visit with
  | nil => exact tracked
  | cons step rest ih =>
    obtain ⟨first, later⟩ := List.forall_mem_cons.mp windowless
    exact ih (tracked.perform (Session.aims_of_windowless first _)) later

/-- Every request leaves every handle in step. -/
theorem Tracked.ask (tracked : visit.Tracked) (request : Session.Request Int64) :
    (visit.ask request).Tracked := by
  rw [Visit.ask]
  cases taken : visit.session.steps request with
  | nil => exact tracked
  | cons step rest =>
    obtain ⟨aims, windowless⟩ := Session.aims_of_steps taken
    exact (tracked.perform aims).performAll windowless

/-- In every visit all handles are in step after any requests. -/
theorem tracked_askAll (replay : Replay) (registry : Registry) (options : SessionOptions)
    (requests : List (Session.Request Int64)) :
    ((start replay registry options).askAll requests).Tracked := by
  -- The requests keep what a new session has, in which there is no handle.
  have kept : ∀ {visit : Visit}, visit.Tracked → (visit.askAll requests).Tracked := by
    induction requests with
    | nil => exact id
    | cons request rest ih => exact fun tracked => ih (tracked.ask request)
  exact kept (Session.tracking_of_empty Arena.wellFormed_of_empty rfl)

/-- Listing what an issued reference leads to does not ask for the size of what it was given for. -/
theorem Tracked.listing_spares (tracked : visit.Tracked) (sound : visit.Sound) {value : Value}
    {shown : Descriptor} (given : .value value shown ∈ visit.grants) (window : Window) :
    visit.session.ledger.Spares value.id
      (visit.session.listVariables shown.reference window).2.ledger := by
  by_cases empty : shown.reference = 0
  · -- The empty reference leads nowhere.
    have nowhere : visit.session.target? 0 = none := rfl
    simp only [empty, Session.listVariables, nowhere]
    exact .of_growsWithoutSize (.of_history_eq rfl)
  · -- Any other reference leads to the handle of the value that it was given for.
    obtain ⟨slot, target, leads, subject⟩ := sound.leads given empty
    cases target with
    | locals frame => cases subject
    | value other =>
      obtain ⟨_, handle, found, aimed⟩ := Session.resolve_of_target leads
      obtain ⟨classification, known, _⟩ :=
        (Session.inStep_iff aimed).mp (tracked.handles slot handle found)
      -- The handle is of the value itself, which is known.
      have same : other.id = value.id := Subject.value.inj subject
      rw [← same]
      exact Session.listVariables_spares leads known window

/--
Between requests every handle is in step with what the session knows of its stop.

The visit follows the session through the requests.
The handle of a frame has learned nothing.
That of a value says of its children what the classification says, and it remembers those that the
provider gave for their positions since the stop began, and counts no other as fetched.
Listing the children of a value that has been shown therefore never asks for its size.
-/
theorem handles_in_step (replay : Replay) (registry : Registry) (options : SessionOptions)
    (requests : List (Session.Request Int64)) :
    let visit := (start replay registry options).askAll requests
    let session := visit.session
    session = (Session.start replay registry options).after requests ∧
      (∀ slot handle, session.arena.handle? slot = some handle →
        match handle.target with
        | .locals _ => handle.state = .unresolved ∧ handle.fetched = [] ∧ handle.children = [] ∧
            handle.namedEnd = none
        | .value value =>
          ∃ classification, session.known.lookup value.id = some classification ∧
            (handle.state = .sizeKnown classification.kind ∨
              ∃ coverage, handle.state = .enumerated classification.kind coverage) ∧
            handle.fetched.Nodup ∧
            (∀ index, index ∈ handle.fetched ↔ ∃ child, handle.child? index = some child) ∧
            (∀ index child, handle.child? index = some child →
              (Session.childProvider classification).Gave replay.stops options.budget visit.before
                value index child session.ledger.history) ∧
            ∀ count, classification.kind = .indexed count → ∀ index ∈ handle.fetched,
              index < count) ∧
      ∀ value shown, .value value shown ∈ visit.grants → ∀ window, ∃ calls,
        (session.listVariables shown.reference window).2.ledger.history =
            calls ++ session.ledger.history ∧
          sizeQueries calls value.id = [] := by
  intro visit session
  have tracked : visit.Tracked := tracked_askAll replay registry options requests
  have sound : visit.Sound := sound_askAll replay registry options requests
  -- The recording and the limits are those that the session was begun with.
  have same : session = (Session.start replay registry options).after requests :=
    (start replay registry options).askAll_session requests
  obtain ⟨stops, limits⟩ := (Session.start replay registry options).after_program requests
  rw [← same] at stops limits
  refine ⟨same, fun slot handle found => ?_, fun value shown given window =>
    tracked.listing_spares sound given window⟩
  have inStep := tracked.handles slot handle found
  cases target : handle.target with
  | locals frame =>
    simp only [Session.InStep, target] at inStep
    rw [inStep]
    exact ⟨rfl, rfl, rfl, rfl⟩
  | value value =>
    -- What the handle tracks is all that is claimed of it.
    obtain ⟨classification, known, tracks⟩ := (Session.inStep_iff target).mp inStep
    refine ⟨classification, known, tracks.state, tracks.tidy.distinct, tracks.tidy.keys, ?_,
      tracks.bounded⟩
    have given := tracks.given
    rw [stops, limits] at given
    exact given

end Visit

end Inspection
