import Inspection.Proofs.Replay
import Inspection.Proofs.Session.Program

/-! Requests about reported values are served from steps about reported values. -/

namespace Inspection

namespace Session

variable {session : Session} {value : Value} {node : RecordedValue}

/-- What a step needs to be taken on recorded values alone. -/
def Fits (session : Session) : Step → Prop
  | .classify value | .describe value | .follow value _ => ∃ node, session.replay.Has value node
  | .serve slot value _ => ∃ handle, session.arena.handle? slot = some handle ∧
      handle.target = .value value
  | .openFrame frame => ∃ values, session.replay.locals frame = .ok values
  | .proceed _ => session.known = [] ∧ session.arena.handles = #[]
  | .command _ | .resumed | .stopped _ => True

/-- Each of some steps has what it needs when its turn comes. -/
inductive AllFit : Session → List Step → Prop where
  | nil {session : Session} : AllFit session []
  | cons {session : Session} {step : Step} {rest : List Step} (first : session.Fits step)
      (later : AllFit (session.perform step) rest) : AllFit session (step :: rest)

/-- A single step fits if it has what it needs now. -/
theorem allFit_singleton {step : Step} (fits : session.Fits step) : session.AllFit [step] :=
  .cons fits .nil

/-- Two runs of steps fit if the second fits where the first leaves off. -/
theorem allFit_append {first second : List Step} (fits : session.AllFit first)
    (further : (session.performAll first).AllFit second) : session.AllFit (first ++ second) := by
  -- The induction is on how the first run fits.
  induction fits with
  | nil => exact further
  | cons first _ ih => exact .cons first (ih further)

/-- A frame that is listed has locals. -/
theorem locals_of_frames {frames : List Frame} {frame : Nat}
    (listed : session.replay.frames = .ok frames)
    (known : frames.any (fun candidate => candidate.index == frame) = true) :
    ∃ values, session.replay.locals frame = .ok values := by
  -- Frames are numbered by their places in the recorded stop.
  simp only [Replay.frames, Replay.current] at listed
  simp only [Replay.locals, Replay.current]
  cases at_ : session.replay.stops[session.replay.cursor]? with
  | none =>
    rw [at_] at listed
    cases listed
  | some stop =>
    rw [at_] at listed
    cases listed
    obtain ⟨candidate, member, same⟩ := List.any_eq_true.mp known
    obtain ⟨index, inside, built⟩ := List.mem_mapIdx.mp member
    rw [← built] at same
    have index : index = frame := eq_of_beq same
    subst index
    simp only [bind, Except.bind, RecordedStop.locals?, List.getElem?_eq_getElem inside,
      Option.map_some]
    exact ⟨_, rfl⟩

/-- The locals of a frame are recorded values. -/
theorem recorded_locals {frame : Nat} {values : List Value}
    (found : session.replay.locals frame = .ok values) :
    ∀ value ∈ values, ∃ node, session.replay.Has value node := by
  -- Each of them stands at a place of its frame.
  obtain ⟨stop, recorded, current, held, same⟩ := Replay.locals_eq_ok found
  intro value member
  rw [same] at member
  obtain ⟨entry, among, same⟩ := List.mem_map.mp member
  rw [← same]
  exact ⟨entry.2, Replay.has_toValue (Replay.node_of_frame current held among)⟩

/-- What is recorded below a recorded value are recorded values. -/
theorem recorded_entries (found : session.replay.node value.id = .ok node) :
    ∀ child ∈ valuesOf (node.entries value.id), ∃ below, session.replay.Has child below := by
  -- Each of them stands at a position below the value.
  intro child member
  obtain ⟨entry, among, same⟩ := List.mem_map.mp member
  rw [← same]
  exact ⟨entry.2, Replay.has_toValue (Replay.node_of_parent found among)⟩

/-- The children among outcomes that are all children. -/
theorem childrenOf_map_child (values : List Value) : childrenOf (values.map .child) = values := by
  -- Each outcome gives its own child.
  induction values with
  | nil => rfl
  | cons value rest ih => exact congrArg (value :: ·) ih

/-- A request of a client that leaves running the program to the session. -/
def Request.Plain {ρ : Type} : Request ρ → Prop
  | .frames | .scopes _ | .listVariables _ _ | .evaluate _ _ | .resume _ | .resumed
  | .stopped _ => True
  | .classify _ | .describe _ | .proceed _ => False

/-- A request that names reported values alone and leaves running the program to the session. -/
def Request.Genuine {ρ : Type} (replay : Replay) : Request ρ → Prop
  | .classify value | .describe value => replay.Reports value
  | .frames | .scopes _ | .listVariables _ _ | .evaluate _ _ | .resume _ | .resumed
  | .stopped _ => True
  | .proceed _ => False

/-- A plain request names no value at all. -/
theorem Request.Plain.genuine {ρ : Type} {request : Request ρ} (plain : request.Plain)
    (replay : Replay) : request.Genuine replay := by
  cases request with
  | classify _ | describe _ | proceed _ => cases plain
  | frames | scopes _ | listVariables _ _ | evaluate _ _ | resume _ | resumed | stopped _ => trivial

/-- Something that holds of a session as long as its steps are about reported values. -/
structure Upheld (Holds : Session → Prop) : Prop where
  perform : ∀ {session : Session} {step : Step}, Holds session → session.Fits step →
    Holds (session.perform step)
  served : ∀ {session : Session} {slot : Nat} {handle : Handle} {value : Value} (window : Window),
    Holds session → session.arena.handle? slot = some handle → handle.target = .value value →
      ∀ child ∈ childrenOf (session.serve slot value window).1, session.replay.Reports child
  followed : ∀ {session : Session} {value child : Value} {key : ChildKey}, Holds session →
    session.replay.Reports value → (session.follow value key).1 = .ok (some child) →
      session.replay.Reports child

namespace Upheld

variable {Holds : Session → Prop}

/-- Reported values can be described one after the other. -/
theorem allFit_describes (upheld : Upheld Holds) (holds : Holds session) {values : List Value}
    (reported : ∀ value ∈ values, session.replay.Reports value) :
    session.AllFit (values.map .describe) := by
  -- The induction is on the values, from the session that the first description leaves.
  induction values generalizing session with
  | nil => exact .nil
  | cons value rest ih =>
    have fits : session.Fits (.describe value) := reported value List.mem_cons_self
    -- A description leaves the recording, so the others are reported still.
    have unmoved : (session.perform (.describe value)).replay = session.replay :=
      (perform_quiet rfl).1
    refine .cons fits (ih (upheld.perform holds fits) fun other member => ?_)
    rw [unmoved]
    exact reported other (List.mem_cons_of_mem value member)

/-- A walk from a reported value leads to reported values alone. -/
theorem walk (upheld : Upheld Holds) (holds : Holds session)
    (reports : session.replay.Reports value) (walked : String) (keys : List ChildKey) :
    session.AllFit (session.walkSteps value keys) ∧
      (∀ reached, (session.walk value walked keys).1 = .ok reached →
        session.replay.Reports reached) ∧
      Holds (session.walk value walked keys).2 ∧
      (session.walk value walked keys).2.replay = session.replay := by
  -- The induction is on the keys, from the child that the first one leads to.
  induction keys generalizing session value walked with
  | nil =>
    refine ⟨.nil, fun reached same => ?_, holds, rfl⟩
    cases same
    exact reports
  | cons key rest ih =>
    -- The first step follows the key, which leaves the recording.
    have fits : session.Fits (.follow value key) := reports
    have followed := upheld.perform holds fits
    have unmoved : (session.perform (.follow value key)).replay = session.replay :=
      (perform_quiet rfl).1
    have given : ∀ child, (session.follow value key).1 = .ok (some child) →
        session.replay.Reports child := fun child => upheld.followed holds reports
    simp only [Session.walk, walkSteps]
    simp only [Session.perform] at followed unmoved
    rcases answered : session.follow value key with ⟨error | _ | child, next⟩
    · -- The walk ends at an error, with no value reached.
      rw [answered] at followed unmoved
      refine ⟨allFit_singleton fits, fun reached same => ?_, followed, unmoved⟩
      cases same
    · -- It ends as well where there is no such child.
      rw [answered] at followed unmoved
      refine ⟨allFit_singleton fits, fun reached same => ?_, followed, unmoved⟩
      cases same
    · -- The walk goes on from the child that was given.
      rw [answered] at followed unmoved given
      have reported : next.replay.Reports child := unmoved ▸ given child rfl
      obtain ⟨further, leads, kept, there⟩ := ih followed reported (walked ++ key.segment)
      rw [unmoved] at leads there
      have here : session.perform (.follow value key) = next := by simp [Session.perform, answered]
      refine ⟨.cons fits ?_, leads, kept, there⟩
      rw [here]
      exact further

/-- The steps of a listing have what they need. -/
theorem allFit_listing (upheld : Upheld Holds) (holds : Holds session) (reference : Int64)
    (window : Window) : session.AllFit (session.listingSteps reference window) := by
  -- What is listed are locals of a frame or children of a value, all of them reported.
  simp only [listingSteps]
  rcases leads : session.target? reference with _ | ⟨slot, target⟩
  · exact .nil
  · cases target with
    | locals frame =>
      simp only
      cases found : session.replay.locals frame with
      | error error => exact .nil
      | ok values =>
        -- A window shows none but the locals of the frame.
        apply upheld.allFit_describes holds
        intro value member
        rw [Window.select_eq_shown] at member
        exact recorded_locals found value (Window.mem_of_mem_shown member)
    | value value =>
      -- The reference leads to a handle, which serves its own value.
      obtain ⟨_, handle, found, target⟩ := resolve_of_target leads
      have fits : session.Fits (.serve slot value window) := ⟨handle, found, target⟩
      have unmoved : (session.perform (.serve slot value window)).replay = session.replay :=
        (perform_quiet rfl).1
      refine .cons fits (upheld.allFit_describes (upheld.perform holds fits) ?_)
      rw [unmoved]
      exact upheld.served window holds found target

/-- The steps of a path have what they need. -/
theorem allFit_path (upheld : Upheld Holds) (holds : Holds session) (frame : Nat) (path : Path) :
    session.AllFit (session.pathSteps frame path) := by
  -- The walk begins at a reported local and stays among reported values.
  simp only [pathSteps]
  cases found : session.replay.locals frame with
  | error error => exact .nil
  | ok values =>
    simp only
    cases first : values.find? fun candidate => candidate.name == path.root with
    | none => exact .nil
    | some start =>
      -- The local of that name is recorded, so the walk has where to begin.
      have reports := recorded_locals found start (List.mem_of_find?_eq_some first)
      obtain ⟨fits, leads, kept, same⟩ := upheld.walk holds reports path.root path.keys
      apply allFit_append fits
      rw [← walk_performAll session start path.root path.keys]
      -- The value that is reached is described where the walk leaves off.
      split
      · rename_i reached ended
        exact allFit_singleton (same ▸ leads reached ended :
          (session.walk start path.root path.keys).2.replay.Reports reached)
      · exact .nil

/-- The steps of a genuine request have what they need. -/
theorem allFit_steps (upheld : Upheld Holds) (holds : Holds session) {request : Request Int64}
    (genuine : request.Genuine session.replay) : session.AllFit (session.steps request) := by
  -- A genuine request names no value that is not reported.
  cases request with
  | frames => exact .nil
  | proceed _ => cases genuine
  | classify value | describe value => exact allFit_singleton genuine
  | resumed | stopped _ => exact allFit_singleton trivial
  | listVariables reference window => exact upheld.allFit_listing holds reference window
  | scopes frame =>
    -- A frame is opened only if it is listed.
    simp only [steps, scopesSteps]
    cases listed : session.replay.frames with
    | error error => exact .nil
    | ok frames =>
      simp only
      split
      · rename_i known
        exact allFit_singleton (locals_of_frames listed known)
      · exact .nil
  | evaluate frame expression =>
    simp only [steps, evaluationSteps]
    -- A command takes one step of its own, and any other expression is a path.
    by_cases marked : (Text.trim expression).toList.head? = some Console.mark
    · rw [if_pos marked]
      exact allFit_singleton trivial
    · rw [if_neg marked]
      cases Path.parse? (Text.trim expression) with
      | none => exact .nil
      | some path => exact upheld.allFit_path holds frame path
  | resume kind =>
    -- The program moves only after everything learned has been forgotten.
    have forgotten : session.resumed.Fits (.proceed kind) := ⟨rfl, rfl⟩
    have begun : session.perform .resumed = session.resumed := rfl
    simp only [steps, resumeSteps]
    refine .cons trivial ?_
    rw [begun]
    rcases session.replay.resume kind with error | ⟨reached, moved⟩
    · exact .nil
    · cases reached with
      | stopped reason => exact .cons forgotten (allFit_singleton trivial)
      | exited => exact allFit_singleton forgotten

end Upheld

/-- The requests of a client are genuine, each at the stop where it is made. -/
def Attended (session : Session) : List (Request Int64) → Prop
  | [] => True
  | request :: rest => request.Genuine session.replay ∧ (session.respond request).2.Attended rest

/-- Plain requests are genuine at any stop. -/
theorem attended_of_plain (session : Session) {requests : List (Request Int64)}
    (plain : ∀ request ∈ requests, request.Plain) : session.Attended requests := by
  -- A plain request is genuine wherever the requests before it lead.
  induction requests generalizing session with
  | nil => trivial
  | cons request rest ih =>
    obtain ⟨first, later⟩ := List.forall_mem_cons.mp plain
    exact ⟨first.genuine session.replay, ih _ later⟩

/-- What sessions uphold, and what is true of every descriptor that they have shown. -/
structure Assures (Holds : Session → Prop) (Shown : Session → Value → Descriptor → Prop) :
    Prop where
  upheld : Upheld Holds
  described : ∀ {session : Session} {value : Value}, Holds session → session.replay.Reports value →
    Shown (session.describe value).2 value (session.describe value).1
  kept : ∀ {before after : Session} {value : Value} {shown : Descriptor}, before.Grows after →
    after.inquiry = before.inquiry → Shown before value shown → Shown after value shown

end Session

namespace Visit

/-- A visit upholds something of its session, and something of all that has been shown. -/
structure Upholds (visit : Visit) (Holds : Session → Prop)
    (Shown : Session → Value → Descriptor → Prop) : Prop where
  sound : visit.Sound
  session : Holds visit.session
  shown : ∀ value descriptor, .value value descriptor ∈ visit.grants →
    Shown visit.session value descriptor

namespace Upholds

variable {visit : Visit} {Holds : Session → Prop} {Shown : Session → Value → Descriptor → Prop}

/-- A step that has what it needs leaves what is upheld. -/
theorem perform (assures : Session.Assures Holds Shown) (upholds : visit.Upholds Holds Shown)
    {step : Session.Step} (fits : visit.session.Fits step) :
    (visit.perform step).Upholds Holds Shown := by
  -- A step that ends the stop leaves nothing shown, any other one adds to what has been shown.
  refine ⟨upholds.sound.perform step, ?_, fun value descriptor given => ?_⟩
  · rw [perform_session]
    exact assures.upheld.perform upholds.session fits
  · cases ends : visit.session.endsStop step with
    | true =>
      simp only [Visit.perform, ends, if_true] at given
      cases given
    | false =>
      rw [perform_grants ends] at given
      rw [perform_session]
      rcases List.mem_append.mp given with earlier | new
      · by_cases runs : ∃ kind, step = .proceed kind
        · -- Before the program runs nothing is known, so nothing has been shown either.
          obtain ⟨kind, rfl⟩ := runs
          obtain ⟨classification, known, _⟩ := upholds.sound.holds _ earlier
          rw [fits.1] at known
          cases known
        · -- What had been shown stays true of a session that only grows.
          have unmoved := visit.session.perform_inquiry ends fun kind same => runs ⟨kind, same⟩
          exact assures.kept (Session.perform_grows upholds.sound.formed ends).2 unmoved
            (upholds.shown value descriptor earlier)
      · -- Only a description hands out a descriptor.
        cases step with
        | describe other =>
          cases List.mem_singleton.mp new
          exact assures.described upholds.session fits
        | openFrame frame => cases List.mem_singleton.mp new
        | classify _ | serve _ _ _ | follow _ _ | command _ | resumed | stopped _ | proceed _ =>
          cases new

/-- Steps that all have what they need leave what is upheld. -/
theorem performAll (assures : Session.Assures Holds Shown) (upholds : visit.Upholds Holds Shown)
    {steps : List Session.Step} (fits : visit.session.AllFit steps) :
    (visit.performAll steps).Upholds Holds Shown := by
  -- The induction is on the steps, each of which fits where it is taken.
  induction steps generalizing visit with
  | nil => exact upholds
  | cons step rest ih =>
    cases fits with
    | cons first later =>
      apply ih (upholds.perform assures first)
      rw [perform_session]
      exact later

/-- A genuine request leaves what is upheld. -/
theorem ask (assures : Session.Assures Holds Shown) (upholds : visit.Upholds Holds Shown)
    {request : Session.Request Int64} (genuine : request.Genuine visit.session.replay) :
    (visit.ask request).Upholds Holds Shown :=
  upholds.performAll assures (assures.upheld.allFit_steps upholds.session genuine)

/-- Genuine requests leave what is upheld. -/
theorem askAll (assures : Session.Assures Holds Shown) (upholds : visit.Upholds Holds Shown)
    {requests : List (Session.Request Int64)} (attended : visit.session.Attended requests) :
    (visit.askAll requests).Upholds Holds Shown := by
  -- The induction is on the requests, from the visit that the first one leaves.
  induction requests generalizing visit with
  | nil => exact upholds
  | cons request rest ih =>
    -- The rest is attended by the session that the first request leaves.
    obtain ⟨genuine, later⟩ := attended
    apply ih (upholds.ask assures genuine)
    rw [ask_session]
    exact later

/-- A new visit upholds what holds of its session. -/
theorem start {replay : Replay} {registry : Registry} {options : SessionOptions}
    (holds : Holds (Session.start replay registry options)) :
    (Visit.start replay registry options).Upholds Holds Shown :=
  ⟨sound_askAll replay registry options [], holds, fun _ _ given => by cases given⟩

end Upholds

end Visit

end Inspection
