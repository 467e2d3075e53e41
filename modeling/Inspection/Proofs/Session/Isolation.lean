import Inspection.Proofs.Session.Alike
import Inspection.Proofs.Session.Program

/-! After a resume a session answers as one that was begun at the stop it has reached. -/

namespace Inspection

namespace Session

/-- A request with its reference looked up by place among the references that were shown. -/
def Request.named? (issued : List Int64) : Request Nat → Option (Request Int64)
  | .listVariables place window =>
    issued[place]?.map fun reference => .listVariables reference window
  | .frames => some .frames
  | .scopes frame => some (.scopes frame)
  | .evaluate frame expression => some (.evaluate frame expression)
  | .classify value => some (.classify value)
  | .describe value => some (.describe value)
  | .resume kind => some (.resume kind)
  | .resumed => some .resumed
  | .stopped reason => some (.stopped reason)
  | .proceed kind => some (.proceed kind)

/-- The answers to a client that uses the references shown since the stop began, and no others. -/
def converse (session : Session) (issued : List Int64) : List (Request Nat) → List Answer
  | [] => []
  | move :: rest =>
    match move.named? issued with
    -- No reference was shown in that place.
    | none => session.converse issued rest
    | some request =>
      let (answer, later) := session.respond request
      let kept := if session.endsAt request then [] else issued
      answer :: later.converse (kept ++ answer.references) rest

/-- Without generations an answer shows its references without theirs. -/
theorem Answer.references_withoutGeneration (answer : Answer) :
    answer.withoutGeneration.references = answer.references.map Reference.withoutGeneration := by
  -- Descriptors and scopes each carry their reference as it is.
  have listed : ∀ shown : List Descriptor,
      (shown.map Descriptor.withoutGeneration).map (·.reference) =
        (shown.map (·.reference)).map Reference.withoutGeneration := by
    intro shown
    rw [List.map_map, List.map_map]
    rfl
  cases answer with
  | frames _ | classification _ | arrival _ | silence => rfl
  | listing answer =>
    simp only [references, withoutGeneration, descriptors, scopeList, List.map_nil, List.append_nil,
      VariablesAnswer.withoutGeneration, listed]
  | descriptor shown => rfl
  | scopes answer =>
    cases answer with
    | error error => rfl
    | ok shown =>
      simp only [references, withoutGeneration, Except.map, descriptors, scopeList, List.map_nil,
        List.nil_append, List.map_map]
      rfl
  | evaluation answer =>
    rcases answer with error | evaluation
    · rfl
    · cases evaluation <;> rfl

end Session

/-- Two visits whose sessions are alike and whose clients were shown the same references. -/
structure Conversing (left right : Visit) (issued reissued : List Int64) : Prop where
  alike : left.session.Alike right.session
  sound : left.Sound
  otherSound : right.Sound
  given : ∀ reference ∈ issued, left.Issued reference
  otherGiven : ∀ reference ∈ reissued, right.Issued reference
  same : reissued.map Reference.withoutGeneration = issued.map Reference.withoutGeneration

namespace Conversing

variable {left right : Visit} {issued reissued : List Int64}

/-- References shown in the same place lead to the same target. -/
theorem target (conversing : Conversing left right issued reissued) {one other : Int64}
    (first : left.Issued one) (second : right.Issued other)
    (same : Reference.withoutGeneration other = Reference.withoutGeneration one) :
    right.session.target? other = left.session.target? one ∧
      (left.session.target? one = none → other = one) := by
  -- The two references are both empty or both in use, for the empty one shows no place.
  by_cases empty : one = 0
  · by_cases otherEmpty : other = 0
    · rw [empty, otherEmpty]
      exact ⟨rfl, fun _ => rfl⟩
    · -- A reference in use shows a place even without its generation.
      obtain ⟨slot, _, fits, word, _⟩ := conversing.otherSound.issued_place second otherEmpty
      rw [word, empty] at same
      exact absurd same (Arena.withoutGeneration_ne_zero fits)
  · -- The first is in use, and so the other has to be.
    obtain ⟨slot, handle, fits, word, found, leads⟩ := conversing.sound.issued_place first empty
    by_cases otherEmpty : other = 0
    · rw [word, otherEmpty] at same
      exact absurd same.symm (Arena.withoutGeneration_ne_zero fits)
    · obtain ⟨place, also, otherFits, otherWord, otherFound, otherLeads⟩ :=
        conversing.otherSound.issued_place second otherEmpty
      rw [word, otherWord] at same
      have places := Arena.eq_of_withoutGeneration otherFits fits same
      subst places
      -- One place holds one handle in both sessions.
      have handles := conversing.alike.handle? place
      rw [otherFound, found] at handles
      cases handles
      rw [leads, otherLeads]
      exact ⟨rfl, fun lost => by cases lost⟩

/-- Requests by the same place ask the same. -/
theorem named (conversing : Conversing left right issued reissued) (move : Session.Request Nat) :
    (move.named? issued = none ∧ move.named? reissued = none) ∨
      ∃ request asked, move.named? issued = some request ∧ move.named? reissued = some asked ∧
        Session.Counterpart left.session right.session request asked ∧
        (move.Discreet → request.Discreet) ∧
        right.session.endsAt asked = left.session.endsAt request := by
  -- Only a listing names a reference; every other request is the same for both.
  cases move with
  | listVariables place window =>
    have shown := congrArg (fun references : List Int64 => references[place]?) conversing.same
    simp only [List.getElem?_map] at shown
    simp only [Session.Request.named?]
    cases one : issued[place]? with
    | none =>
      rw [one] at shown
      simp only [Option.map_none, Option.map_eq_none_iff] at shown
      -- Both clients have been shown as many references.
      exact .inl ⟨rfl, by rw [shown]; rfl⟩
    | some reference =>
      rw [one] at shown
      simp only [Option.map_some, Option.map_eq_some_iff] at shown
      obtain ⟨other, also, same⟩ := shown
      rw [also]
      -- What was shown in one place leads to one target.
      have led := conversing.target (conversing.given _ (List.mem_of_getElem? one))
        (conversing.otherGiven _ (List.mem_of_getElem? also)) same
      exact .inr ⟨_, _, rfl, rfl, ⟨other, rfl, led⟩, fun _ => trivial, rfl⟩
  | stopped reason =>
    exact .inr ⟨_, _, rfl, rfl, rfl, fun _ => trivial, by
      simp only [Session.endsAt, conversing.alike.fresh]⟩
  | evaluate frame expression => exact .inr ⟨_, _, rfl, rfl, rfl, id, rfl⟩
  | frames | scopes _ | classify _ | describe _ | resume _ | resumed | proceed _ =>
    exact .inr ⟨_, _, rfl, rfl, rfl, fun _ => trivial, rfl⟩

/-- Asked the same, both answer alike and go on as before. -/
theorem ask (conversing : Conversing left right issued reissued)
    {request asked : Session.Request Int64}
    (counterpart : Session.Counterpart left.session right.session request asked)
    (discreet : request.Discreet)
    (ends : right.session.endsAt asked = left.session.endsAt request) :
    (right.session.respond asked).1.withoutGeneration =
        (left.session.respond request).1.withoutGeneration ∧
      Conversing (left.ask request) (right.ask asked)
        ((if left.session.endsAt request then [] else issued) ++
          (left.session.respond request).1.references)
        ((if right.session.endsAt asked then [] else reissued) ++
          (right.session.respond asked).1.references) := by
  -- The answers are alike, and so are the references that they show.
  obtain ⟨answers, after⟩ := conversing.alike.respond counterpart discreet
  have references := congrArg Session.Answer.references answers
  rw [Session.Answer.references_withoutGeneration,
    Session.Answer.references_withoutGeneration] at references
  refine ⟨answers, ?_, ?_, ?_, ?_, ?_, ?_⟩
  · rw [Visit.ask_session, Visit.ask_session]
    exact after
  · exact Visit.performAll_invariant (fun _ step => Visit.Sound.perform step) conversing.sound _
  · exact Visit.performAll_invariant (fun _ step => Visit.Sound.perform step)
      conversing.otherSound _
  · -- All that the first client uses from now on it has been shown in this stop.
    intro reference member
    rcases List.mem_append.mp member with kept | shown
    · -- What was shown earlier counts only while the stop lasts.
      cases stays : left.session.endsAt request with
      | true => simp [stays] at kept
      | false =>
        rw [stays] at kept
        exact (conversing.given reference kept).ask stays
    · exact left.issued_of_answer request reference shown
  · -- So has the other client of the other session.
    intro reference member
    rcases List.mem_append.mp member with kept | shown
    · cases stays : right.session.endsAt asked with
      | true => simp [stays] at kept
      | false =>
        rw [stays] at kept
        exact (conversing.otherGiven reference kept).ask stays
    · exact right.issued_of_answer asked reference shown
  · -- The references of the answers come behind those that both keep.
    rw [ends, List.map_append, List.map_append, references]
    split
    · rfl
    · rw [conversing.same]

/-- A client that does not ask for the counters is answered alike by both. -/
theorem converse (conversing : Conversing left right issued reissued)
    (moves : List (Session.Request Nat)) (discreet : ∀ move ∈ moves, move.Discreet) :
    (right.session.converse reissued moves).map Session.Answer.withoutGeneration =
      (left.session.converse issued moves).map Session.Answer.withoutGeneration := by
  -- Each move leaves two visits that converse on.
  induction moves generalizing left right issued reissued with
  | nil => rfl
  | cons move rest ih =>
    have later : ∀ move ∈ rest, move.Discreet :=
      fun other member => discreet other (List.mem_cons_of_mem move member)
    rcases conversing.named move with ⟨lost, alsoLost⟩ |
      ⟨request, asked, named, alsoNamed, counterpart, kept, ends⟩
    · -- A move that names no reference shown is left out by both.
      simp only [Session.converse, lost, alsoLost]
      exact ih conversing later
    · obtain ⟨answers, next⟩ := conversing.ask counterpart (kept (discreet move List.mem_cons_self))
        ends
      have further := ih next later
      rw [Visit.ask_session, Visit.ask_session] at further
      simp only [Session.converse, named, alsoNamed, List.map_cons, answers, further]

end Conversing

namespace Session

/-- Where a resume reaches a stop, the session is new there but for counters and generation. -/
theorem resume_arrives {session arrived : Session} {kind : Resumption} {reason : StopReason}
    (crossed : session.resume kind = (.ok (.stopped reason), arrived)) :
    arrived.replay.stops = session.replay.stops ∧ arrived.replay.state = .stopped reason ∧
      Session.start arrived.replay arrived.registry session.options =
        arrived.disguise .empty 1 := by
  -- A stop is reached only by a run that ends the old one and moves the program.
  simp only [resume] at crossed
  cases ran : session.resumed.replay.resume kind with
  | error error =>
    rw [ran] at crossed
    cases crossed
  | ok arrival =>
    rcases arrival with ⟨reached, moved⟩
    obtain ⟨along, state⟩ := Replay.resume_ok ran
    cases reached with
    | exited =>
      -- A program that is gone has reached no stop.
      simp only [ran] at crossed
      cases crossed
    | stopped there =>
      simp only [ran] at crossed
      cases crossed
      refine ⟨?_, state.symm, ?_⟩
      · show moved.stops = session.replay.stops
        rw [along]
        rfl
      · -- The reason is the one that a new session reads off the replay.
        show Session.start moved session.registry session.options = _
        simp only [Session.start, ← state]
        rfl

end Session

/--
What happened at earlier stops does not show after a resume.

A session that has crossed to a recorded stop and one that is begun there answer every client alike.
Only the generation bits of their references may differ.
-/
theorem Session.arrival_isolated {replay : Replay} {registry : Registry} {options : SessionOptions}
    {earlier : List (Session.Request Int64)} {kind : Resumption} {reason : StopReason}
    {arrived : Session}
    (crossed : ((Session.start replay registry options).after earlier).resume kind =
      (.ok (.stopped reason), arrived))
    (pure : arrived.registry.Pure) {moves : List (Session.Request Nat)}
    (discreet : ∀ move ∈ moves, move.Discreet) :
    ∃ there, (Replay.start ⟨replay.stops⟩).seek arrived.replay.cursor = .ok there ∧
      ((Session.start there arrived.registry options).converse [] moves).map
          Session.Answer.withoutGeneration =
        (arrived.converse [] moves).map Session.Answer.withoutGeneration := by
  -- The new session is the arrived one in disguise, and neither client has been shown anything.
  obtain ⟨stops, state, begun⟩ := Session.resume_arrives crossed
  obtain ⟨recorded, limits⟩ := (Session.start replay registry options).after_program earlier
  have whole : arrived.replay = ⟨replay.stops, arrived.replay.cursor⟩ := by
    rw [show replay.stops = arrived.replay.stops from (stops.trans recorded).symm]
  have within : arrived.replay.cursor < replay.stops.length := by
    -- Past the last stop there is no reason to be stopped.
    rcases Nat.lt_or_ge arrived.replay.cursor replay.stops.length with inside | beyond
    · exact inside
    · rw [whole] at state
      simp only [Replay.state, List.getElem?_eq_none beyond] at state
      cases state
  -- Moving to that stop gives the replay in which the session has arrived.
  refine ⟨arrived.replay, ?_, ?_⟩
  · exact (Replay.seek_ok within).trans (congrArg Except.ok whole.symm)
  · rw [limits] at begun
    have conversing : Conversing (.ofSession arrived)
        (.start arrived.replay arrived.registry options) [] [] := by
      have known : arrived.known = [] := (congrArg Session.known begun).symm
      have arenas : Arena.empty = arrived.arena.inGeneration 1 := congrArg Session.arena begun
      have formed : (arrived.arena.inGeneration 1).WellFormed := by
        rw [← arenas]
        exact Arena.wellFormed_of_empty
      refine ⟨⟨⟨.empty, 1, begun⟩, pure, fun id classification found => ?_⟩,
        ⟨formed, List.forall_mem_nil _⟩, ⟨Arena.wellFormed_of_empty, List.forall_mem_nil _⟩,
        List.forall_mem_nil _, List.forall_mem_nil _, rfl⟩
      -- Nothing has been classified at the new stop.
      simp only [Visit.ofSession, known] at found
      cases found
    exact conversing.converse moves discreet

/-- A record with one member, seen first by a session that has already looked at an earlier stop. -/
theorem Session.arrival_isolated_after_one_stop :
    let node : RecordedValue :=
      ⟨"point", "Point", "\x7b..\x7d", .record, [⟨"x", "int", "1", .scalar, []⟩]⟩
    let stop : RecordedStop := ⟨.step, [⟨"main", [node]⟩]⟩
    let begun := Session.start ⟨[stop, stop], 0⟩ .empty ⟨.unbounded, 100⟩
    let arrived := ((begun.after [.scopes 0, .listVariables 0x100001 .all]).resume .onward).2
    ∃ there, (Replay.start ⟨[stop, stop]⟩).seek arrived.replay.cursor = .ok there ∧
      ((Session.start there arrived.registry ⟨.unbounded, 100⟩).converse []
          [.scopes 0, .listVariables 0 .all, .listVariables 1 .all]).map
          Session.Answer.withoutGeneration =
        (arrived.converse [] [.scopes 0, .listVariables 0 .all, .listVariables 1 .all]).map
          Session.Answer.withoutGeneration := by
  intro node stop begun arrived
  have reached : ((begun.after [.scopes 0, .listVariables 0x100001 .all]).resume
      .onward).1.toOption = some (.stopped .step) := by decide +kernel
  have crossed : (begun.after [.scopes 0, .listVariables 0x100001 .all]).resume .onward =
      (.ok (.stopped .step), arrived) := by
    rcases resumed : (begun.after [.scopes 0, .listVariables 0x100001 .all]).resume .onward with
      ⟨error | state, session⟩
    · rw [resumed] at reached
      cases reached
    · rw [resumed] at reached
      cases reached
      simp only [arrived, resumed]
  apply Session.arrival_isolated crossed
  · -- There is no formatter that could look at earlier calls.
    intro entry member
    have none : arrived.registry.entries.isEmpty = true := by decide +kernel
    rw [List.isEmpty_iff.mp none] at member
    cases member
  · -- None of the moves asks for the counters.
    intro move member
    simp only [List.mem_cons, List.not_mem_nil, or_false] at member
    rcases member with rfl | rfl | rfl <;> trivial

end Inspection
