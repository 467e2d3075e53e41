import Inspection.Proofs.Adapter.Conversation

/-! Which requests are answered, and which events come before the answer. -/

namespace Inspection.Adapter

/-- The number of the request that a message responds to. -/
def Content.answered? : Content → Option Int
  | .response given => some given.request
  | .event _ => none

/-- The requests that are heard: all up to the first farewell. -/
def heard : List Request → List Request
  | [] => []
  | request :: rest => request :: if request.command.isFarewell then [] else heard rest

/-- The requests that messages respond to, in order. -/
def answers (messages : List Message) : List Int :=
  messages.filterMap fun message => message.content.answered?

/-- The response comes first, and events alone follow it. -/
def RespondsFirst (request : Request) (contents : List Content) : Prop :=
  ∃ verdict, ∃ events : List Event,
    contents = .response ⟨request.number, verdict⟩ :: events.map .event

/-- An event in front of everything else is no response. -/
theorem not_respondsFirst_of_event {request : Request} {event : Event} {rest : List Content} :
    ¬RespondsFirst request (.event event :: rest) := by
  -- A response would have to stand where the event stands.
  rintro ⟨verdict, events, same⟩
  cases same

/--
Events follow the response to their request, except where something is told at once.

Whatever is said about a request stands between what was said before and what is said next.
An introduction, and a listing that comes with a diagnostic, put their one event in front.
-/
theorem events_follow_iff (session : Session) (earlier : List Request) (request : Request)
    (later : List Request) (isOpen : ((start session).serve earlier).2.isOpen = true)
    (answered : request.command.isAnswered = true) :
    let adapter := ((start session).serve earlier).2
    ((start session).serve (earlier ++ request :: later)).1.map Message.content =
        ((start session).serve earlier).1.map Message.content ++ (adapter.said request ++
          ((adapter.handle request).2.serve later).1.map Message.content) ∧
      (RespondsFirst request (adapter.said request) ↔
        request.command.speaksFirst adapter.session = false) ∧
      (request.command.speaksFirst adapter.session = true →
        ∃ event verdict, adapter.said request =
          [.event event, .response ⟨request.number, verdict⟩]) := by
  intro adapter
  refine ⟨?_, ⟨fun first => ?_, said_of_answered answered⟩, said_of_speaksFirst answered⟩
  · -- The request is served where the earlier ones have led.
    rw [serve_split isOpen, List.map_append, List.map_append, handle_contents]
  · -- Had something been told at once, an event would come first.
    rw [← Bool.not_eq_true]
    intro speaks
    obtain ⟨event, verdict, said⟩ := said_of_speaksFirst answered speaks
    rw [said] at first
    exact not_respondsFirst_of_event first

/-- After an introduction a listing of an unknown reference tells its diagnostic at once. -/
theorem events_follow_iff_of_unknown :
    let session := Session.start ⟨[⟨.breakpoint, [⟨"main", []⟩]⟩], 0⟩ .empty ⟨.unbounded, 100⟩
    let adapter := ((start session).serve [⟨1, .introduce⟩]).2
    adapter.isOpen = true ∧ (Command.listVariables 7 none none).isAnswered = true ∧
      ∃ event verdict, adapter.said ⟨2, .listVariables 7 none none⟩ =
        [.event event, .response ⟨2, verdict⟩] := by
  intro session adapter
  exact ⟨rfl, rfl, (events_follow_iff session [⟨1, .introduce⟩] ⟨2, .listVariables 7 none none⟩ []
    rfl rfl).2.2 (by decide +kernel)⟩

/-- The readiness of the adapter is told before its introduction is answered. -/
theorem ready_precedes_response :
    let session := Session.start ⟨[⟨.breakpoint, [⟨"main", []⟩]⟩], 0⟩ .empty ⟨.unbounded, 100⟩
    ((start session).serve [⟨1, .introduce⟩]).1.map Message.content =
        [.event .ready, .response ⟨1, .success "initialize" (some .abilities)⟩] ∧
      ¬RespondsFirst ⟨1, .introduce⟩
        (((start session).serve [⟨1, .introduce⟩]).1.map Message.content) :=
  ⟨rfl, not_respondsFirst_of_event⟩

/-! Who is answered. -/

/-- A request is answered once, under its own number, or not at all. -/
theorem answers_handle (adapter : Adapter) (request : Request) :
    answers (adapter.handle request).1 =
      ([request].filter (·.command.isAnswered)).map (·.number) := by
  -- What is said holds one response at most, before or after events that answer nothing.
  have silent : ∀ events : List Event,
      (events.map Content.event).filterMap Content.answered? = [] :=
    fun events => by simp [Content.answered?]
  have same : answers (adapter.handle request).1 =
      (adapter.said request).filterMap Content.answered? := by
    rw [← handle_contents, List.filterMap_map]
    rfl
  rw [same]
  cases answered : request.command.isAnswered with
  | false =>
    rw [said_of_unanswered answered]
    simp [answered]
  | true =>
    have kept : [request].filter (·.command.isAnswered) = [request] := by simp [answered]
    rw [kept]
    cases speaks : request.command.speaksFirst adapter.session with
    | false =>
      obtain ⟨verdict, events, said⟩ := said_of_answered answered speaks
      rw [said, List.filterMap_cons, silent]
      rfl
    | true =>
      obtain ⟨event, verdict, said⟩ := said_of_speaksFirst answered speaks
      rw [said]
      rfl

/-- Of the requests that are heard, those with an answer are answered in order. -/
theorem answers_serve {adapter : Adapter} (isOpen : adapter.isOpen = true)
    (requests : List Request) :
    answers (adapter.serve requests).1 =
      ((heard requests).filter (·.command.isAnswered)).map (·.number) := by
  -- The induction is on the requests; a farewell leaves a conversation that serves nothing.
  induction requests generalizing adapter with
  | nil => rfl
  | cons request rest ih =>
    -- The rest is heard unless this request is a farewell.
    have further : answers ((adapter.handle request).2.serve rest).1 =
        ((if request.command.isFarewell then [] else heard rest).filter
          (·.command.isAnswered)).map (·.number) := by
      have stays := adapter.handle_isOpen request
      cases farewell : request.command.isFarewell with
      | true =>
        rw [farewell] at stays
        rw [serve_of_closed stays]
        rfl
      | false =>
        rw [farewell] at stays
        exact ih stays
    rw [serve_cons isOpen, answers, List.filterMap_append, ← answers, ← answers, further,
      answers_handle, ← List.map_append, ← List.filter_append]
    rfl

/-- Apart from the commands without arguments, a name alone decides whether it is answered. -/
theorem isAnswered_ofArguments {name : String} (argument : String → Option Json)
    (first : name ≠ "configurationDone") (second : name ≠ "threads") :
    (Command.ofArguments name argument).isAnswered = true ↔ name ∈ Command.answered := by
  -- Every name that is told apart is answered, and of the others those that are acknowledged.
  unfold Command.ofArguments
  split
  case h_14 =>
    split
    · simp_all [Command.answered, Command.isAnswered]
    · simp_all [Command.answered, Command.isAnswered]
  all_goals simp [Command.answered, Command.isAnswered]

/-- A command that can be read is answered exactly if its name is among those answered. -/
theorem isAnswered_of_read {name : String} {arguments : Option Json} {command : Command}
    (read : Command.read? name arguments = some command) :
    command.isAnswered = true ↔ name ∈ Command.answered := by
  unfold Command.read? at read
  split at read
  case h_4 first second _ =>
    -- The arguments are checked, and then the name decides.
    cases arguments with
    | none => cases read
    | some value =>
      obtain ⟨shape, _, read⟩ := Option.bind_eq_some_iff.mp read
      split at read
      · cases read
        exact isAnswered_ofArguments _ first second
      · cases read
  -- The other three admit no arguments but null, and then the name is all there is.
  all_goals
    rcases arguments with _ | value
    · cases read
      decide
    · cases value <;> cases read
      decide

/--
The requests that are heard are answered once each, in order and under their own numbers.

Left out are those whose command has no response, and the name alone tells which these are.
-/
theorem answers_in_order (session : Session) (requests : List Request) :
    let answered := answers ((start session).serve requests).1
    answered = ((heard requests).filter (·.command.isAnswered)).map (·.number) ∧
      (answered = (heard requests).map (·.number) ↔
        ∀ request ∈ heard requests, request.command.isAnswered = true) ∧
      ∀ name arguments command, Command.read? name arguments = some command →
        (command.isAnswered = true ↔ name ∈ Command.answered) := by
  intro answered
  have order : answered = ((heard requests).filter (·.command.isAnswered)).map (·.number) :=
    answers_serve rfl requests
  refine ⟨order, ⟨fun all => ?_, fun all => ?_⟩, fun _ _ _ => isAnswered_of_read⟩
  · -- Were one of them left out, there would be fewer answers than requests.
    have lengths := congrArg List.length (order.symm.trans all)
    rw [List.length_map, List.length_map] at lengths
    exact List.length_filter_eq_length_iff.mp lengths
  · -- Where all have an answer nothing is left out.
    rw [order, List.filter_eq_self.mpr all]

/-- The request to set breakpoints can be read and is left without an answer. -/
theorem breakpoints_unanswered :
    let session := Session.start ⟨[⟨.breakpoint, [⟨"main", []⟩]⟩], 0⟩ .empty ⟨.unbounded, 100⟩
    let arguments : Json := .object [(some "source", .object [])]
    let requests : List Request := [⟨1, .ignore⟩, ⟨2, .threads⟩]
    Command.read? "setBreakpoints" (some arguments) = some .ignore ∧
      Command.read? "threads" none = some .threads ∧
      answers ((start session).serve requests).1 = [2] ∧
      (heard requests).map (·.number) = [1, 2] := by
  decide +kernel

end Inspection.Adapter
