import Inspection.Proofs.Session.Visit

/-! Everything that an answer shows is on the record of the stop. -/

namespace Inspection

/-- The references that an answer shows. -/
def Session.Answer.references (answer : Answer) : List Int64 :=
  answer.descriptors.map (·.reference) ++ answer.scopeList.map (·.reference)

namespace Session

variable {session : Session}

/-- Whether a step leaves both the program and the stop where they are. -/
def Step.isQuiet : Step → Bool
  | resumed | stopped _ | proceed _ => false
  | classify _ | describe _ | serve _ _ _ | follow _ _ | openFrame _ | command _ => true

/-- A quiet step ends no stop, whatever session takes it. -/
theorem Step.stays_of_quiet {step : Step} (quiet : step.isQuiet = true) (other : Session) :
    other.endsStop step = false := by
  cases step with
  | classify _ | describe _ | serve _ _ _ | follow _ _ | openFrame _ | command _ => rfl
  | resumed | stopped _ | proceed _ => cases quiet

/-- Whether a request leaves both the program and the stop where they are. -/
def Request.isQuiet {ρ : Type} : Request ρ → Bool
  | resume _ | resumed | stopped _ | proceed _ => false
  | frames | scopes _ | listVariables _ _ | evaluate _ _ | classify _ | describe _ => true

/-- A quiet request is served by quiet steps. -/
theorem steps_quiet {request : Request Int64} (quiet : request.isQuiet = true) :
    ∀ step ∈ session.steps request, step.isQuiet = true := by
  -- What each request is served from is told by where it can fail.
  cases request with
  | frames => exact List.forall_mem_nil _
  | classify _ | describe _ => exact List.forall_mem_singleton.mpr rfl
  | resume _ | resumed | stopped _ | proceed _ => cases quiet
  | scopes frame =>
    simp only [steps, scopesSteps]
    split
    · exact List.forall_mem_nil _
    · split
      · exact List.forall_mem_singleton.mpr rfl
      · exact List.forall_mem_nil _
  | listVariables reference window =>
    simp only [steps, listingSteps]
    split
    · exact List.forall_mem_nil _
    · split
      · exact List.forall_mem_nil _
      · exact forall_describes (fun _ => rfl) _
    · exact List.forall_mem_cons.mpr ⟨rfl, forall_describes (fun _ => rfl) _⟩
  | evaluate frame expression =>
    simp only [steps, evaluationSteps]
    split
    · exact List.forall_mem_singleton.mpr rfl
    · split
      · exact List.forall_mem_nil _
      · exact forall_pathSteps (fun _ _ => rfl) (fun _ => rfl) _ _

/--
A request that ends no stop is served without ending one.

News of a stop is left out, since whether it ends one depends on the session that hears of it.
-/
theorem steps_stay {request : Request Int64} (stays : session.endsAt request = false)
    (untold : ∀ reason, request ≠ .stopped reason) :
    ∀ step ∈ session.steps request, ∀ other : Session, other.endsStop step = false := by
  -- Every other request is quiet or lets the program run on, whatever session takes its steps.
  cases request with
  | resume _ | resumed => cases stays
  | stopped reason => exact absurd rfl (untold reason)
  | proceed _ => exact List.forall_mem_singleton.mpr fun _ => rfl
  | frames | scopes _ | listVariables _ _ | evaluate _ _ | classify _ | describe _ =>
    exact fun step member => Step.stays_of_quiet (steps_quiet rfl step member)

end Session

namespace Visit

variable {visit : Visit}

/-- A step within the stop adds to the record what it hands out. -/
theorem perform_grants {step : Session.Step} (stays : visit.session.endsStop step = false) :
    (visit.perform step).grants = visit.grants ++ visit.session.grants step := by
  -- The record starts anew only where the stop ends.
  simp only [perform, stays, Bool.false_eq_true, if_false]

/-- Steps that end no stop take nothing off the record. -/
theorem grants_subset_performAll {steps : List Session.Step}
    (within : ∀ step ∈ steps, ∀ session : Session, session.endsStop step = false) :
    visit.grants ⊆ (visit.performAll steps).grants := by
  -- The induction is on the steps, from the visit that the first one leaves.
  induction steps generalizing visit with
  | nil => exact fun _ given => given
  | cons step rest ih =>
    intro grant given
    apply ih fun later member => within later (List.mem_cons_of_mem step member)
    -- The first step appends to the record.
    rw [perform_grants (within step List.mem_cons_self visit.session)]
    exact List.mem_append_left _ given

/-- A request that ends no stop takes nothing off the record. -/
theorem grants_subset_ask {request : Session.Request Int64}
    (stays : visit.session.endsAt request = false) : visit.grants ⊆ (visit.ask request).grants := by
  -- News of a stop is one step, which is judged by this session; the others stay in any session.
  cases request with
  | stopped reason =>
    -- Only a stop in which something was handed out ends here.
    have within : visit.session.endsStop (.stopped reason) = false := stays
    intro grant given
    rw [show visit.ask (.stopped reason) = visit.perform (.stopped reason) from rfl,
      perform_grants within]
    exact List.mem_append_left _ given
  | frames | scopes _ | listVariables _ _ | evaluate _ _ | classify _ | describe _ | resume _
  | resumed | proceed _ =>
    exact grants_subset_performAll (Session.steps_stay stays fun reason told => by cases told)

variable (visit : Visit)

/-- Describing values takes nothing off the record. -/
theorem grants_subset_describes (values : List Value) :
    visit.grants ⊆ (visit.performAll (values.map .describe)).grants :=
  grants_subset_performAll (Session.forall_describes (fun _ _ => rfl) values)

/-- A description is on the record once it has been given. -/
theorem describe_granted (value : Value) :
    .value value (visit.session.describe value).1 ∈ (visit.perform (.describe value)).grants := by
  -- It is the last entry that the step adds.
  rw [perform_grants rfl]
  exact List.mem_append_right _ (List.mem_singleton_self _)

/-- The descriptions of a list are on the record. -/
theorem describeAll_granted (values : List Value) :
    ∀ shown ∈ (visit.session.describeAll values).1,
      ∃ value, .value value shown ∈ (visit.performAll (values.map .describe)).grants := by
  -- The induction is on the values, in the order in which they are described.
  induction values generalizing visit with
  | nil => exact List.forall_mem_nil _
  | cons value rest ih =>
    intro shown member
    simp only [Session.describeAll] at member
    rcases List.mem_cons.mp member with first | later
    · -- The first description stays on the record while the rest are given.
      rw [first]
      exact ⟨value, grants_subset_describes _ rest (describe_granted visit value)⟩
    · have next := ih (visit.perform (.describe value)) shown
      rw [perform_session] at next
      exact next later

/-- The descriptions of outcomes are on the record, but for the stand-ins. -/
theorem present_granted (outcomes : List ChildOutcome) :
    ∀ shown ∈ (visit.session.present outcomes).1,
      (∃ index error, shown = .placeholder index error) ∨
        ∃ value, .value value shown ∈
          (visit.performAll ((Session.childrenOf outcomes).map .describe)).grants := by
  -- The induction is on the outcomes; only the children among them are described.
  induction outcomes generalizing visit with
  | nil => exact List.forall_mem_nil _
  | cons outcome rest ih =>
    intro shown member
    cases outcome with
    | child child =>
      simp only [Session.present] at member
      rcases List.mem_cons.mp member with first | later
      · rw [first]
        exact .inr ⟨child, grants_subset_describes _ (Session.childrenOf rest)
          (describe_granted visit child)⟩
      · have next := ih (visit.perform (.describe child)) shown
        rw [perform_session] at next
        exact next later
    | failed index error =>
      simp only [Session.present] at member
      rcases List.mem_cons.mp member with first | later
      · exact .inl ⟨index, error, first⟩
      · exact ih visit shown later

/-- The descriptions of a listing are on the record, but for the stand-ins. -/
theorem listing_granted (reference : Int64) (window : Window) :
    ∀ shown ∈ (visit.session.listVariables reference window).1.descriptors,
      (∃ index error, shown = .placeholder index error) ∨
        ∃ value, .value value shown ∈
          (visit.performAll (visit.session.listingSteps reference window)).grants := by
  -- Locals are described at once, and the children of a value after they have been served.
  simp only [Session.listVariables, Session.listingSteps]
  rcases visit.session.target? reference with _ | ⟨slot, target⟩
  · exact List.forall_mem_nil _
  · cases target with
    | locals frame =>
      simp only
      cases visit.session.replay.locals frame with
      | error error => exact List.forall_mem_nil _
      | ok locals =>
        intro shown member
        exact .inr (visit.describeAll_granted (window.select locals) shown member)
    | value value =>
      -- The children are described after the window has been served.
      have presented := present_granted (visit.perform (.serve slot value window))
        (visit.session.serve slot value window).1
      rw [perform_session] at presented
      exact presented

/-- The description of what a path leads to is on the record. -/
theorem path_granted (frame : Nat) (path : Path) {shown : Descriptor}
    (found : (visit.session.evaluatePath frame path).1 = .ok shown) :
    ∃ value, .value value shown ∈
      (visit.performAll (visit.session.pathSteps frame path)).grants := by
  -- An answer without an error means that the walk has come to its end.
  simp only [Session.evaluatePath, Session.reach] at found
  simp only [Session.pathSteps]
  cases locals : visit.session.replay.locals frame with
  | error error =>
    rw [locals] at found
    cases found
  | ok values =>
    simp only [locals] at found ⊢
    cases first : values.find? fun candidate => candidate.name == path.root with
    | none =>
      simp only [first] at found
      cases found
    | some start =>
      simp only [first] at found ⊢
      -- The session that the walk leaves is the one that describes its end.
      have walked := visit.session.walk_performAll start path.root path.keys
      rw [← performAll_session] at walked
      rcases reached : visit.session.walk start path.root path.keys with ⟨error | value, next⟩
      · simp only [reached] at found
        cases found
      · simp only [reached] at found walked ⊢
        cases found
        have given := describe_granted
          (visit.performAll (visit.session.walkSteps start path.keys)) value
        rw [← walked] at given
        simp only [performAll, List.foldl_append]
        exact ⟨value, given⟩

/-- The description that an evaluation shows is on the record. -/
theorem evaluation_granted (frame : Nat) (expression : String) {shown : Descriptor}
    (found : (visit.session.evaluate frame expression).1 = .ok (.value shown)) :
    ∃ value, .value value shown ∈
      (visit.performAll (visit.session.evaluationSteps frame expression)).grants := by
  -- A console line shows no descriptor, so there is a path.
  simp only [Session.evaluate] at found
  simp only [Session.evaluationSteps]
  split at found
  · cases found
  · rename_i unmarked
    rw [if_neg unmarked]
    cases parsed : Path.parse? (Text.trim expression) with
    | none =>
      rw [parsed] at found
      cases found
    | some path =>
      simp only [parsed] at found ⊢
      -- Only a path that leads somewhere is answered with a value.
      cases answered : (visit.session.evaluatePath frame path).1 with
      | error error =>
        rw [answered] at found
        cases found
      | ok descriptor =>
        rw [answered] at found
        cases found
        exact visit.path_granted frame path answered

/-- The reference of a scope is on the record. -/
theorem scopes_granted (frame : Nat) {scopes : List Scope}
    (found : (visit.session.scopes frame).1 = .ok scopes) :
    ∀ scope ∈ scopes, .locals frame scope.reference ∈
      (visit.performAll (visit.session.scopesSteps frame)).grants := by
  -- The one scope that is shown is that of the frame that has been opened.
  simp only [Session.scopes] at found
  simp only [Session.scopesSteps]
  cases recorded : visit.session.replay.frames with
  | error error =>
    rw [recorded] at found
    cases found
  | ok frames =>
    simp only [recorded] at found ⊢
    split at found
    · rename_i known
      rw [if_pos known]
      cases found
      intro scope member
      rw [List.mem_singleton.mp member]
      simp only [performAll, List.foldl_cons, List.foldl_nil]
      rw [perform_grants rfl]
      exact List.mem_append_right _ (List.mem_singleton_self _)
    · cases found

/-- Whatever a request shows is on the record, but for the stand-ins of failed children. -/
theorem ask_granted (request : Session.Request Int64) :
    (∀ shown ∈ (visit.session.respond request).1.descriptors,
      (∃ index error, shown = .placeholder index error) ∨
        ∃ value, .value value shown ∈ (visit.ask request).grants) ∧
    ∀ scope ∈ (visit.session.respond request).1.scopeList,
      ∃ frame, .locals frame scope.reference ∈ (visit.ask request).grants := by
  -- Only four requests show anything at all.
  cases request with
  | frames | classify _ | resume _ | resumed | stopped _ | proceed _ =>
    exact ⟨List.forall_mem_nil _, List.forall_mem_nil _⟩
  | describe value =>
    refine ⟨fun shown member => .inr ⟨value, ?_⟩, List.forall_mem_nil _⟩
    rw [List.mem_singleton.mp member]
    exact visit.describe_granted value
  | listVariables reference window =>
    exact ⟨visit.listing_granted reference window, List.forall_mem_nil _⟩
  | scopes frame =>
    simp only [Session.respond]
    cases found : (visit.session.scopes frame).1 with
    | error error => exact ⟨List.forall_mem_nil _, List.forall_mem_nil _⟩
    | ok scopes =>
      exact ⟨List.forall_mem_nil _,
        fun scope member => ⟨frame, visit.scopes_granted frame found scope member⟩⟩
  | evaluate frame expression =>
    simp only [Session.respond]
    cases found : (visit.session.evaluate frame expression).1 with
    | error error => exact ⟨List.forall_mem_nil _, List.forall_mem_nil _⟩
    | ok evaluation =>
      refine ⟨fun shown member => ?_, by cases evaluation <;> exact List.forall_mem_nil _⟩
      cases evaluation with
      | console output => cases member
      | value descriptor =>
        rw [List.mem_singleton.mp member]
        exact .inr (visit.evaluation_granted frame expression found)

/-- A reference that is empty or was given out at this stop. -/
def Issued (visit : Visit) (reference : Int64) : Prop :=
  reference = 0 ∨ ∃ grant ∈ visit.grants, grant.reference = reference

/-- Every reference that an answer shows has been issued. -/
theorem issued_of_answer (request : Session.Request Int64) :
    ∀ reference ∈ (visit.session.respond request).1.references,
      (visit.ask request).Issued reference := by
  -- References are shown by descriptors and by scopes, and both are on the record.
  obtain ⟨descriptors, scopes⟩ := visit.ask_granted request
  intro reference member
  rcases List.mem_append.mp member with shown | opened
  · obtain ⟨descriptor, among, same⟩ := List.mem_map.mp shown
    rcases descriptors descriptor among with ⟨index, error, standIn⟩ | ⟨value, given⟩
    · -- A stand-in offers nothing.
      rw [standIn] at same
      exact .inl same.symm
    · exact .inr ⟨_, given, same⟩
  · obtain ⟨scope, among, same⟩ := List.mem_map.mp opened
    obtain ⟨frame, given⟩ := scopes scope among
    exact .inr ⟨_, given, same⟩

variable {visit}

/-- What was issued stays issued until the stop ends. -/
theorem Issued.ask {reference : Int64} (issued : visit.Issued reference)
    {request : Session.Request Int64} (stays : visit.session.endsAt request = false) :
    (visit.ask request).Issued reference := by
  -- The record keeps what it has.
  rcases issued with empty | ⟨grant, given, same⟩
  · exact .inl empty
  · exact .inr ⟨grant, grants_subset_ask stays given, same⟩

end Visit

end Inspection
