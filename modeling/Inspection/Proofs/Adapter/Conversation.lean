import Inspection.Adapter

/-! A conversation is a run of requests: what is said about each stands before what is said next. -/

namespace Inspection.Adapter

namespace Command

/-- Whether a command ends the conversation. -/
def isFarewell : Command → Bool
  | disconnect | terminate => true
  | introduce | launch | configurationDone | threads | stackTrace | scopes _ | listVariables _ _ _
  | evaluate _ _ | resume _ | acknowledge _ | ignore => false

/-- Whether a command gets a response. -/
def isAnswered : Command → Bool
  | ignore => false
  | introduce | launch | configurationDone | threads | stackTrace | scopes _ | listVariables _ _ _
  | evaluate _ _ | resume _ | disconnect | terminate | acknowledge _ => true

/-- The names of the commands that get a response. -/
def answered : List String :=
  ["initialize", "launch", "configurationDone", "threads", "stackTrace", "scopes", "variables",
    "evaluate", "continue", "next", "stepIn", "stepOut", "disconnect", "terminate", "restart"]
    ++ acknowledged

/-- Whether something is told about a command before its response. -/
def speaksFirst (session : Session) : Command → Bool
  | introduce => true
  | listVariables reference start count =>
    (session.listVariables reference (.ofProtocol start count)).1.diagnostic.isSome
  | launch | configurationDone | threads | stackTrace | scopes _ | evaluate _ _ | resume _
  | disconnect | terminate | acknowledge _ | ignore => false

end Command

/-- What is said about a request, in order. -/
def said (adapter : Adapter) (request : Request) : List Content :=
  (react adapter.session request.command).contents request.number

/-- Numbering what is said changes none of it. -/
theorem number_contents (sent : Nat) (contents : List Content) :
    (number sent contents).map Message.content = contents := by
  -- The induction is on what is said, each part of which is given the next number.
  induction contents generalizing sent with
  | nil => rfl
  | cons content rest ih => rw [number, List.map_cons, ih]

section serve

variable (adapter : Adapter)

/-- The messages about a request say what is said about it. -/
theorem handle_contents (request : Request) :
    (adapter.handle request).1.map Message.content = adapter.said request :=
  number_contents _ _

/-- Only a farewell ends the conversation. -/
theorem handle_isOpen (request : Request) :
    (adapter.handle request).2.isOpen = !request.command.isFarewell := by
  -- Every other reaction goes on, whatever it answers.
  show (react adapter.session request.command).goesOn = _
  cases request.command with
  | introduce | launch | configurationDone | threads | stackTrace | listVariables _ _ _
  | resume _ | disconnect | terminate | acknowledge _ | ignore => rfl
  | scopes frame =>
    simp only [react, scopes]
    split
    · rfl
    · split <;> rfl
  | evaluate expression frame =>
    simp only [react, evaluate]
    split <;> rfl

variable {adapter}

/-- An open conversation serves one request after the other. -/
theorem serve_cons (isOpen : adapter.isOpen = true) (request : Request) (rest : List Request) :
    adapter.serve (request :: rest) =
      ((adapter.handle request).1 ++ ((adapter.handle request).2.serve rest).1,
        ((adapter.handle request).2.serve rest).2) := by
  simp only [serve, isOpen, if_true]

/-- After the farewell nothing is served. -/
theorem serve_of_closed (closed : adapter.isOpen = false) (requests : List Request) :
    adapter.serve requests = ([], adapter) := by
  -- Serving looks first whether the conversation is still open.
  cases requests with
  | nil => rfl
  | cons request rest => simp only [serve, closed, Bool.false_eq_true, if_false]

variable (adapter)

/-- Later requests are served from where the earlier ones have led. -/
theorem serve_append (earlier later : List Request) :
    adapter.serve (earlier ++ later) =
      ((adapter.serve earlier).1 ++ ((adapter.serve earlier).2.serve later).1,
        ((adapter.serve earlier).2.serve later).2) := by
  -- The induction is on the earlier requests, of which none is served once the farewell is said.
  induction earlier generalizing adapter with
  | nil => rfl
  | cons request rest ih =>
    cases isOpen : adapter.isOpen with
    | true => rw [List.cons_append, serve_cons isOpen, serve_cons isOpen, ih, List.append_assoc]
    | false =>
      rw [serve_of_closed isOpen, serve_of_closed isOpen, serve_of_closed isOpen]
      rfl

/-- Without a farewell the conversation goes on. -/
theorem serve_isOpen {requests : List Request}
    (stays : ∀ request ∈ requests, request.command.isFarewell = false) :
    (adapter.serve requests).2.isOpen = adapter.isOpen := by
  -- The induction is on the requests, each of which leaves an open conversation.
  induction requests generalizing adapter with
  | nil => rfl
  | cons request rest ih =>
    obtain ⟨first, later⟩ := List.forall_mem_cons.mp stays
    cases isOpen : adapter.isOpen with
    | true => rw [serve_cons isOpen, ih _ later, handle_isOpen, first, Bool.not_false]
    | false => rw [serve_of_closed isOpen, isOpen]

variable {adapter}

/-- What is said about a request stands between what was said before and what is said next. -/
theorem serve_split {earlier : List Request} (isOpen : (adapter.serve earlier).2.isOpen = true)
    (request : Request) (later : List Request) :
    (adapter.serve (earlier ++ request :: later)).1 =
      (adapter.serve earlier).1 ++ (((adapter.serve earlier).2.handle request).1 ++
        (((adapter.serve earlier).2.handle request).2.serve later).1) := by
  -- The conversation is still open when the request comes, so the request is handled.
  rw [serve_append, serve_cons isOpen]

end serve

/-! The order of what is said about one request. -/

/-- A command that gets a response has at most one event before it, and then none after it. -/
theorem react_order (session : Session) {command : Command} (answered : command.isAnswered = true) :
    ∃ verdict, (react session command).verdict? = some verdict ∧
      if command.speaksFirst session then
        (∃ event, (react session command).before = [event]) ∧ (react session command).after = []
      else (react session command).before = [] := by
  cases command with
  | introduce => exact ⟨_, rfl, ⟨_, rfl⟩, rfl⟩
  | launch | configurationDone | threads | stackTrace | resume _ | disconnect | terminate
  | acknowledge _ => exact ⟨_, rfl, rfl⟩
  | ignore => cases answered
  | scopes frame =>
    -- A frame may be none, or have no scopes, and each way there is a verdict.
    simp only [react, scopes]
    split
    · exact ⟨_, rfl, rfl⟩
    · split <;> exact ⟨_, rfl, rfl⟩
  | evaluate expression frame =>
    -- An evaluation that fails is answered as well.
    simp only [react, evaluate]
    split <;> exact ⟨_, rfl, rfl⟩
  | listVariables reference start count =>
    -- The diagnostic is what is told first, if there is one.
    simp only [react, listVariables, Command.speaksFirst, answer]
    cases (session.listVariables reference (.ofProtocol start count)).1.diagnostic with
    | none => exact ⟨_, rfl, rfl⟩
    | some text => exact ⟨_, rfl, ⟨_, rfl⟩, trivial⟩

variable {adapter : Adapter} {request : Request}

/-- Where nothing is told first the response comes first. -/
theorem said_of_answered (answered : request.command.isAnswered = true)
    (waits : request.command.speaksFirst adapter.session = false) :
    ∃ verdict, ∃ events : List Event, adapter.said request =
      .response ⟨request.number, verdict⟩ :: events.map .event := by
  -- What is told stands around the verdict, and nothing is told before it.
  obtain ⟨verdict, found, order⟩ := react_order adapter.session answered
  rw [waits, if_neg Bool.false_ne_true] at order
  refine ⟨verdict, (react adapter.session request.command).after, ?_⟩
  simp only [said, Reaction.contents, found, order]
  rfl

/-- Where something is told first the response comes last. -/
theorem said_of_speaksFirst (answered : request.command.isAnswered = true)
    (speaks : request.command.speaksFirst adapter.session = true) :
    ∃ event verdict, adapter.said request =
      [.event event, .response ⟨request.number, verdict⟩] := by
  -- What is told stands around the verdict, and nothing is told after it.
  obtain ⟨verdict, found, order⟩ := react_order adapter.session answered
  rw [speaks, if_pos rfl] at order
  obtain ⟨⟨event, before⟩, after⟩ := order
  refine ⟨event, verdict, ?_⟩
  simp only [said, Reaction.contents, found, before, after]
  rfl

/-- About a command without a response nothing is said. -/
theorem said_of_unanswered (unanswered : request.command.isAnswered = false) :
    adapter.said request = [] := by
  -- Only a command that is ignored gets no response.
  rw [said]
  cases command : request.command with
  | ignore => rfl
  | introduce | launch | configurationDone | threads | stackTrace | scopes _ | listVariables _ _ _
  | evaluate _ _ | resume _ | disconnect | terminate | acknowledge _ =>
    rw [command] at unanswered
    cases unanswered

end Inspection.Adapter
