import Inspection.Proofs.Adapter.Conversation
import Inspection.Proofs.Session.Program

/-! The program, the session and what the client is told move through a recording together. -/

namespace Inspection

namespace Adapter

/-- Whether a command lets the program run. -/
def Command.isResume : Command → Bool
  | resume _ => true
  | introduce | launch | configurationDone | threads | stackTrace | scopes _ | listVariables _ _ _
  | evaluate _ _ | disconnect | terminate | acknowledge _ | ignore => false

/-- How many requests let the program run. -/
def turns (requests : List Request) : Nat := requests.countP (·.command.isResume)

/-- What is told when the program is let run for the given time, counted from one. -/
def tidings (recording : Recording) (turn : Nat) : List Event :=
  match recording.stops[turn]? with
  | some stop => [.stopped stop.reason]
  | none =>
    if turn = recording.stops.length then [.terminated]
    -- A program that is gone cannot run on.
    else [.output .errors (ReplayError.notStopped.message ++ "\n"), .terminated]

/-- A session that the program has taken through some turns of a recording. -/
structure InStep (recording : Recording) (turn : Nat) (session : Session) : Prop where
  stops : session.replay.stops = recording.stops
  /-- Behind the last stop the program goes no further. -/
  cursor : session.replay.cursor = min turn recording.stops.length
  stop : session.stop = session.replay.state.reason?

variable {recording : Recording} {turn : Nat} {session : Session}

/-- A new session is in step before the first turn. -/
theorem inStep_start (recording : Recording) (registry : Registry) (options : SessionOptions) :
    InStep recording 0 (Session.start (Replay.start recording) registry options) := by
  -- A new session takes its reason from the place where the replay begins.
  refine ⟨rfl, (Nat.zero_min _).symm, ?_⟩
  simp only [Session.start]
  cases (Replay.start recording).state <;> rfl

/-- What leaves the program and the stop where they are stays in step. -/
theorem InStep.of_position (inStep : InStep recording turn session) {later : Session}
    (replay : later.replay = session.replay) (stop : later.stop = session.stop) :
    InStep recording turn later := by
  -- All three parts speak of the replay and of the stop alone.
  refine ⟨?_, ?_, ?_⟩
  · rw [replay]
    exact inStep.stops
  · rw [replay]
    exact inStep.cursor
  · rw [replay, stop]
    exact inStep.stop

/-- Each turn takes program and session one stop further, and the next tidings are told. -/
theorem InStep.resume (inStep : InStep recording turn session) (kind : Resumption) :
    arrival (session.resume kind).1 = tidings recording (turn + 1) ∧
      InStep recording (turn + 1) (session.resume kind).2 := by
  obtain ⟨stops, cursor, stop⟩ := inStep
  -- Either the program waits at a stop, or it has run past the last one.
  cases here : session.replay.stops[session.replay.cursor]? with
  | some left =>
    -- There is a stop to leave, so the cursor has counted the turns.
    have inside := (List.getElem?_eq_some_iff.mp here).choose
    rw [stops] at inside
    have counted : session.replay.cursor = turn := by omega
    obtain ⟨arrived, ran, replay, reason⟩ :=
      session.resume_of_ran (session.replay.resume_of_stop kind here)
    rw [ran]
    refine ⟨?_, ?_, ?_, ?_⟩
    · simp only [Replay.state, stops, counted, tidings]
      cases ahead : recording.stops[turn + 1]? with
      | some next => rfl
      | none =>
        have past := List.getElem?_eq_none_iff.mp ahead
        rw [if_pos (show turn + 1 = recording.stops.length by omega)]
        rfl
    · rw [replay]
      exact stops
    · rw [replay]
      show session.replay.cursor + 1 = _
      omega
    · rw [reason, replay]
  | none =>
    -- The program has left the last stop before, and stays gone.
    have past := List.getElem?_eq_none_iff.mp here
    rw [stops] at past
    have behind : recording.stops[turn + 1]? = none := List.getElem?_eq_none (by omega)
    rw [session.resume_of_end kind here]
    refine ⟨?_, stops, ?_, ?_⟩
    · rw [tidings, behind, if_neg (show turn + 1 ≠ recording.stops.length by omega)]
      rfl
    · show session.replay.cursor = _
      omega
    · show none = session.replay.state.reason?
      simp only [Replay.state, here]
      rfl

/-! Reactions. -/

/-- A command that does not let the program run leaves the program and the stop where they are. -/
theorem react_position (session : Session) {command : Command} (rests : command.isResume = false) :
    (react session command).session.replay = session.replay ∧
      (react session command).session.stop = session.stop := by
  -- Only three commands ask the session for something that changes it, and each is quiet.
  cases command with
  | introduce | launch | configurationDone | threads | stackTrace | disconnect | terminate
  | acknowledge _ | ignore => exact ⟨rfl, rfl⟩
  | resume kind => cases rests
  | listVariables reference start count =>
    exact session.respond_quiet (.listVariables reference (.ofProtocol start count)) rfl
  | scopes frame =>
    simp only [react, scopes]
    split
    · exact ⟨rfl, rfl⟩
    · rename_i index _
      have quiet := session.respond_quiet (.scopes index) rfl
      simp only [Session.respond] at quiet
      split <;> rename_i asked <;> rw [asked] at quiet <;> exact quiet
  | evaluate expression frame =>
    have quiet := session.respond_quiet (.evaluate ((frame.bind frameIndex?).getD 0) expression) rfl
    simp only [Session.respond] at quiet
    -- Whatever comes of the evaluation, the session is the one that it has left.
    simp only [react, evaluate]
    split <;> rename_i asked <;> rw [asked] at quiet <;> exact quiet

/-- A request takes program and session one turn further if it lets the program run. -/
theorem InStep.handle {adapter : Adapter} (inStep : InStep recording turn adapter.session)
    (request : Request) :
    InStep recording (turn + turns [request]) (adapter.handle request).2.session := by
  show InStep recording (turn + turns [request]) (react adapter.session request.command).session
  cases runs : request.command.isResume with
  | false =>
    have none : turns [request] = 0 := by simp [turns, runs]
    obtain ⟨replay, stop⟩ := react_position adapter.session runs
    rw [none, Nat.add_zero]
    exact inStep.of_position replay stop
  | true =>
    have one : turns [request] = 1 := by simp [turns, runs]
    rw [one]
    -- The one command that lets the program run takes one turn.
    cases command : request.command with
    | resume kind => exact (inStep.resume kind).2
    | introduce | launch | configurationDone | threads | stackTrace | scopes _
    | listVariables _ _ _ | evaluate _ _ | disconnect | terminate | acknowledge _ | ignore =>
      rw [command] at runs
      cases runs

/-- Requests take program and session as many turns further as they let the program run. -/
theorem InStep.serve {adapter : Adapter} (inStep : InStep recording turn adapter.session)
    (isOpen : adapter.isOpen = true) {requests : List Request}
    (stays : ∀ request ∈ requests, request.command.isFarewell = false) :
    InStep recording (turn + turns requests) (adapter.serve requests).2.session := by
  -- The induction is on the requests, each of which leaves an open conversation in step.
  induction requests generalizing adapter turn with
  | nil => exact inStep
  | cons request rest ih =>
    obtain ⟨first, later⟩ := List.forall_mem_cons.mp stays
    -- The turns of the first request are counted apart from those of the rest.
    have counted : turn + turns (request :: rest) = turn + turns [request] + turns rest := by
      rw [turns, ← List.singleton_append, List.countP_append, Nat.add_assoc]
      rfl
    have goesOn : (adapter.handle request).2.isOpen = true := by
      rw [handle_isOpen, first, Bool.not_false]
    rw [serve_cons isOpen, counted]
    exact ih (inStep.handle request) goesOn later

/-- The reason of the stop is the recorded one of the turn, until the recording is over. -/
theorem InStep.stop_eq (inStep : InStep recording turn session) :
    session.stop = recording.stops[turn]?.map (·.reason) := by
  -- Past the end the cursor stays where it is, and there is no stop at either place.
  have limited : recording.stops[min turn recording.stops.length]? = recording.stops[turn]? := by
    rcases Nat.le_total turn recording.stops.length with inside | beyond
    · rw [Nat.min_eq_left inside]
    · rw [Nat.min_eq_right beyond, List.getElem?_eq_none (Nat.le_refl _),
        List.getElem?_eq_none beyond]
  rw [inStep.stop, Replay.state, inStep.stops, inStep.cursor, limited]
  cases recording.stops[turn]? <;> rfl

/--
The recording is replayed one stop for each request that lets the program run.

After any requests without a farewell the session knows the stop at which the program waits.
Each turn is answered first, and then the client is told of the next stop and of nothing else.
-/
theorem replayed_in_lockstep (recording : Recording) (registry : Registry)
    (options : SessionOptions) {earlier : List Request}
    (stays : ∀ request ∈ earlier, request.command.isFarewell = false) :
    let begun := start (Session.start (Replay.start recording) registry options)
    let adapter := (begun.serve earlier).2
    (∀ reason, adapter.session.stop = some reason ↔
        adapter.session.replay.state = .stopped reason) ∧
      (adapter.session.stop = none ↔ adapter.session.replay.state = .exited) ∧
      adapter.session.replay = ⟨recording.stops, min (turns earlier) recording.stops.length⟩ ∧
      ∀ request later,
        (begun.serve (earlier ++ request :: later)).1 =
            (begun.serve earlier).1 ++ ((adapter.handle request).1 ++
              ((adapter.handle request).2.serve later).1) ∧
          (∀ kind, request.command = .resume kind → ∃ command body,
            (adapter.handle request).1.map Message.content =
              .response ⟨request.number, .success command body⟩ ::
                (tidings recording (turns earlier + 1)).map .event) ∧
          (request.command = .configurationDone → ∃ command body,
            (adapter.handle request).1.map Message.content =
              [.response ⟨request.number, .success command body⟩,
                .event (announcement (recording.stops[turns earlier]?.map (·.reason)))]) ∧
          (request.command.isResume = false →
            (adapter.handle request).2.session.replay = adapter.session.replay) := by
  intro begun adapter
  -- What has been served so far has taken all three the same number of turns.
  have inStep : InStep recording (turns earlier) adapter.session := by
    have served : InStep recording (0 + turns earlier) adapter.session :=
      InStep.serve (inStep_start recording registry options) rfl stays
    rw [Nat.zero_add] at served
    exact served
  have isOpen : adapter.isOpen = true := begun.serve_isOpen stays
  refine ⟨fun reason => ?_, ?_, ?_, fun request later => ⟨?_, ?_, ?_, ?_⟩⟩
  · rw [inStep.stop]
    exact RunState.reason?_eq_some
  · rw [inStep.stop]
    exact RunState.reason?_eq_none
  · rw [← inStep.cursor, ← inStep.stops]
  · exact serve_split isOpen request later
  · -- The response is the same for each kind of resumption, up to its command.
    intro kind runs
    have told := (inStep.resume kind).1
    rw [handle_contents, said, runs, ← told]
    cases kind <;> exact ⟨_, _, rfl⟩
  · intro configured
    rw [handle_contents, said, configured, ← inStep.stop_eq]
    exact ⟨_, _, rfl⟩
  · exact fun rests => (react_position adapter.session rests).1

/-- A client that asks to go on once more than there are stops is told so. -/
theorem replayed_in_lockstep_past_end :
    let stop : RecordedStop := ⟨.step, [⟨"main", []⟩]⟩
    let begun := start (Session.start (Replay.start ⟨[stop, stop]⟩) .empty ⟨.unbounded, 100⟩)
    let earlier : List Request :=
      [⟨1, .configurationDone⟩, ⟨2, .resume .onward⟩, ⟨3, .threads⟩, ⟨4, .resume .over⟩]
    let adapter := (begun.serve earlier).2
    (∀ request ∈ earlier, request.command.isFarewell = false) ∧
      adapter.session.replay = ⟨[stop, stop], 2⟩ ∧
      ∃ command body, (adapter.handle ⟨5, .resume .out⟩).1.map Message.content =
        [.response ⟨5, .success command body⟩,
          .event (.output .errors (ReplayError.notStopped.message ++ "\n")),
          .event .terminated] := by
  intro stop begun earlier adapter
  have stays : ∀ request ∈ earlier, request.command.isFarewell = false := by decide
  -- The earlier requests have taken two turns, which are all that there are.
  obtain ⟨_, _, replay, replies⟩ :=
    replayed_in_lockstep ⟨[stop, stop]⟩ .empty ⟨.unbounded, 100⟩ stays
  exact ⟨stays, replay, (replies ⟨5, .resume .out⟩ []).2.1 .out rfl⟩

end Adapter

end Inspection
