import Inspection.Proofs.Session.Handles

/-! Requests move the program along its recording and change nothing else about it. -/

namespace Inspection

/-- Why the program waits, if it does. -/
def RunState.reason? : RunState → Option StopReason
  | stopped reason => some reason
  | exited => none

/-- A reason is given exactly where the program waits for it. -/
theorem RunState.reason?_eq_some {state : RunState} {reason : StopReason} :
    state.reason? = some reason ↔ state = .stopped reason := by
  cases state <;> simp [reason?]

/-- No reason is given exactly where the program is gone. -/
theorem RunState.reason?_eq_none {state : RunState} : state.reason? = none ↔ state = .exited := by
  cases state <;> simp [reason?]

/-- Any recorded stop can be sought. -/
theorem Replay.seek_ok {stops : List RecordedStop} {stop : Nat} (recorded : stop < stops.length) :
    (Replay.start ⟨stops⟩).seek stop = .ok ⟨stops, stop⟩ := by
  -- The bound is all that seeking checks.
  simp only [Replay.seek]
  exact if_pos recorded

/-- The program moves to the next stop of the same recording. -/
theorem Replay.resume_ok {replay moved : Replay} {kind : Resumption} {reached : RunState}
    (ran : replay.resume kind = .ok (reached, moved)) :
    moved = { replay with cursor := replay.cursor + 1 } ∧ reached = moved.state := by
  -- The program moves only where there is a stop to leave.
  simp only [Replay.resume, Replay.current] at ran
  cases here : replay.stops[replay.cursor]? with
  | none =>
    rw [here] at ran
    cases ran
  | some stop =>
    rw [here] at ran
    cases ran
    exact ⟨rfl, rfl⟩

/-- Where there is a stop to leave the program moves on to the next. -/
theorem Replay.resume_of_stop (replay : Replay) {stop : RecordedStop} (kind : Resumption)
    (here : replay.stops[replay.cursor]? = some stop) :
    replay.resume kind = .ok ({ replay with cursor := replay.cursor + 1 }.state,
      { replay with cursor := replay.cursor + 1 }) := by
  -- Leaving the stop is all that running needs.
  simp only [Replay.resume, Replay.current, here]
  rfl

/-- A program that is gone does not move. -/
theorem Replay.resume_of_end (replay : Replay) (kind : Resumption)
    (here : replay.stops[replay.cursor]? = none) : replay.resume kind = .error .notStopped := by
  -- There is no stop to leave.
  simp only [Replay.resume, Replay.current, here]
  rfl

namespace Session

variable (session : Session)

/-- No step changes the recording or the limits of a session. -/
theorem perform_program (step : Step) :
    (session.perform step).replay.stops = session.replay.stops ∧
      (session.perform step).options = session.options := by
  -- Only running the program touches the replay at all.
  cases step with
  | classify _ | follow _ _ | openFrame _ | resumed => exact ⟨rfl, rfl⟩
  | describe value =>
    obtain ⟨summary, ledger, left⟩ := session.describe_eq value
    simp only [perform, left]
    exact ⟨rfl, rfl⟩
  | serve slot value window =>
    simp only [perform, serve]
    split <;> exact ⟨rfl, rfl⟩
  | command line =>
    obtain ⟨registry, ledger, left, _⟩ := session.runConsole_frame line
    simp only [perform, left]
    exact ⟨trivial, trivial⟩
  | stopped reason =>
    simp only [perform, Session.stopped]
    split <;> exact ⟨rfl, rfl⟩
  | proceed kind =>
    simp only [perform, Session.proceed]
    cases ran : session.replay.resume kind with
    | error error => exact ⟨rfl, rfl⟩
    | ok arrival =>
      -- The program has moved along its own recording.
      obtain ⟨moved, _⟩ := Replay.resume_ok ran
      simp only [moved]
      exact ⟨trivial, trivial⟩

/-- No request changes the recording or the limits of a session. -/
theorem after_program (requests : List (Request Int64)) :
    (session.after requests).replay.stops = session.replay.stops ∧
      (session.after requests).options = session.options := by
  -- The induction is on the requests, and within each on its steps.
  have performed : ∀ (steps : List Step) (session : Session),
      (session.performAll steps).replay.stops = session.replay.stops ∧
        (session.performAll steps).options = session.options := by
    intro steps
    induction steps with
    | nil => exact fun _ => ⟨rfl, rfl⟩
    | cons step rest ih =>
      intro session
      obtain ⟨stops, options⟩ := ih (session.perform step)
      obtain ⟨stopsFirst, optionsFirst⟩ := session.perform_program step
      exact ⟨stops.trans stopsFirst, options.trans optionsFirst⟩
  induction requests generalizing session with
  | nil => exact ⟨rfl, rfl⟩
  | cons request rest ih =>
    -- A request is answered by its steps.
    obtain ⟨stops, options⟩ := ih (session.respond request).2
    obtain ⟨stopsFirst, optionsFirst⟩ := performed (session.steps request) session
    rw [← respond_performAll] at stopsFirst optionsFirst
    exact ⟨stops.trans stopsFirst, options.trans optionsFirst⟩

variable {session}

/-- A quiet step leaves the program and the stop where they are. -/
theorem perform_quiet {step : Step} (quiet : step.isQuiet = true) :
    (session.perform step).replay = session.replay ∧
      (session.perform step).stop = session.stop := by
  -- Quiet steps work on the arena, on what is known, on the formatters and on the ledger.
  cases step with
  | classify _ | follow _ _ | openFrame _ => exact ⟨rfl, rfl⟩
  | describe value =>
    obtain ⟨summary, ledger, left⟩ := session.describe_eq value
    simp only [perform, left]
    exact ⟨rfl, rfl⟩
  | serve slot value window =>
    simp only [perform, serve]
    split <;> exact ⟨rfl, rfl⟩
  | command line =>
    simp only [perform, runConsole]
    exact ⟨trivial, trivial⟩
  | resumed | stopped _ | proceed _ => cases quiet

/-- A quiet request leaves the program and the stop where they are. -/
theorem respond_quiet (request : Request Int64) (quiet : request.isQuiet = true) :
    (session.respond request).2.replay = session.replay ∧
      (session.respond request).2.stop = session.stop := by
  -- The induction is on the steps of the request, all of which are quiet.
  have performed : ∀ (steps : List Step) (session : Session),
      (∀ step ∈ steps, step.isQuiet = true) →
        (session.performAll steps).replay = session.replay ∧
          (session.performAll steps).stop = session.stop := by
    intro steps
    induction steps with
    | nil => exact fun _ _ => ⟨rfl, rfl⟩
    | cons step rest ih =>
      intro session all
      obtain ⟨first, later⟩ := List.forall_mem_cons.mp all
      obtain ⟨replay, stop⟩ := ih (session.perform step) later
      obtain ⟨replayFirst, stopFirst⟩ := session.perform_quiet first
      exact ⟨replay.trans replayFirst, stop.trans stopFirst⟩
  rw [respond_performAll]
  exact performed _ session (steps_quiet quiet)

/-- A session follows its program to wherever it has come. -/
theorem resume_of_ran (session : Session) {kind : Resumption} {reached : RunState} {moved : Replay}
    (ran : session.replay.resume kind = .ok (reached, moved)) :
    ∃ arrived, session.resume kind = (.ok reached, arrived) ∧ arrived.replay = moved ∧
      arrived.stop = reached.reason? := by
  have same : session.resumed.replay.resume kind = .ok (reached, moved) := ran
  simp only [resume, same]
  -- The old stop is forgotten by then, so news of the next one drops nothing more.
  cases reached with
  | stopped reason => exact ⟨_, rfl, rfl, rfl⟩
  | exited => exact ⟨_, rfl, rfl, rfl⟩

/-- A session whose program is gone only ends its stop. -/
theorem resume_of_end (session : Session) (kind : Resumption)
    (here : session.replay.stops[session.replay.cursor]? = none) :
    session.resume kind = (.error (.replay .notStopped), session.resumed) := by
  -- The stop is forgotten before the program is found to be gone.
  have ran : session.resumed.replay.resume kind = .error .notStopped :=
    session.resumed.replay.resume_of_end kind here
  simp only [resume, ran]

/-- A step within a stop leaves the program where it is, unless it lets it run. -/
theorem perform_replay {step : Step} (stays : session.endsStop step = false)
    (halted : ∀ kind, step ≠ .proceed kind) : (session.perform step).replay = session.replay := by
  -- News of a stop that ends none changes the reason alone, and the remaining steps are quiet.
  cases step with
  | resumed => cases stays
  | stopped reason => rw [perform_stopped stays]
  | proceed kind => exact absurd rfl (halted kind)
  | classify _ | describe _ | serve _ _ _ | follow _ _ | openFrame _ | command _ =>
    exact (perform_quiet rfl).1

/-- Such a step leaves alone whatever formatter calls are made against. -/
theorem perform_inquiry {step : Step} (stays : session.endsStop step = false)
    (halted : ∀ kind, step ≠ .proceed kind) :
    (session.perform step).inquiry = session.inquiry := by
  -- Calls are made against the replay, within the budget among the limits.
  simp only [inquiry, session.perform_replay stays halted, (session.perform_program step).2]

/-- Quiet steps leave unchanged what formatters are asked about. -/
theorem inquiry_of_quiet {step : Step} (quiet : step.isQuiet = true) :
    (session.perform step).inquiry = session.inquiry := by
  simp only [inquiry, (perform_quiet quiet).1, (session.perform_program step).2]

end Session

end Inspection
