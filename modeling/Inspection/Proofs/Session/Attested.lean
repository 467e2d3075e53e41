import Inspection.Proofs.Children.Trust
import Inspection.Proofs.Session.Fitting
import Inspection.Proofs.Session.Provider

/-! With steady formatters a session can rely on all that it has learned of its stop. -/

namespace Inspection

namespace ChildAnswers

/-- Whatever child a window shows is the answer for a position that it covers. -/
theorem mem_childrenOf_uncached {answers : ChildAnswers} {kind : ChildrenKind} {window : Window}
    {maxNamed : Nat} {child : Value}
    (member : child ∈ Session.childrenOf (answers.uncached kind window maxNamed)) :
    ∃ index ∈ window.positions kind maxNamed, answers index = .ok (some child) := by
  -- Every outcome of a window is that of a position, whether or not there is a size.
  have among : ∀ (count : Nat) (positions : List Nat),
      child ∈ Session.childrenOf (positions.map (answers.promised count)) →
        ∃ index ∈ positions, answers index = .ok (some child) := by
    intro count positions member
    induction positions with
    | nil => cases member
    | cons index rest ih =>
      rw [List.map_cons, promised] at member
      rw [List.exists_mem_cons_iff]
      rcases found : answers index with error | _ | given <;>
        simp only [found, Session.childrenOf] at member
      · exact .inr (ih member)
      · exact .inr (ih member)
      · rcases List.mem_cons.mp member with rfl | later
        · exact .inl rfl
        · exact .inr (ih later)
  cases kind with
  | indexed count => exact among count _ member
  | named | undeclared =>
    -- Without a size the outcomes are cut off where the children end.
    rw [uncached, untilEnd_eq_map answers 0] at member
    obtain ⟨index, covered, found⟩ := among 0 _ member
    exact ⟨index, (List.takeWhile_sublist _).subset covered, found⟩

end ChildAnswers

namespace Session

/-- The answers for the positions of a value, from whoever supplies its children. -/
def answersOf (session : Session) (value : Value) (classification : Classification) :
    ChildAnswers :=
  session.inquiry.answersOf (childProvider classification) value

/-- What a handle of a reported value remembers can be relied on. -/
def Vouches (session : Session) (handle : Handle) : Prop :=
  ∀ value, handle.target = .value value → session.replay.Reports value ∧
    ∃ classification, session.known.lookup value.id = some classification ∧
      handle.Trusted (session.answersOf value classification)

/-- With steady formatters what a session has learned is what it would be answered now. -/
structure Attested (Holds : Formatter → Prop) (session : Session) : Prop where
  steady : ∀ formatter, Holds formatter → formatter.Steady session.replay.stops
  registered : session.registry.All Holds
  formed : session.arena.WellFormed
  known : ∀ id classification, session.known.lookup id = some classification →
    ∃ value, value.id = id ∧ session.replay.Reports value ∧
      classification.DueTo Holds session.inquiry value
  handles : session.arena.All session.Vouches

variable {Holds : Formatter → Prop} {session : Session} {value : Value}
  {classification : Classification}

/-- A handle is vouched for by every later session that knows what was known. -/
theorem Vouches.mono {later : Session} {handle : Handle} (vouches : session.Vouches handle)
    (known : ∀ id classification, session.known.lookup id = some classification →
      later.known.lookup id = some classification)
    (unmoved : later.inquiry = session.inquiry) : later.Vouches handle := by
  -- The answers depend on the recording and the limits, and both are as they were.
  intro value target
  obtain ⟨reports, classification, found, trusted⟩ := vouches value target
  have same : later.replay = session.replay := congrArg Inquiry.replay unmoved
  refine ⟨same ▸ reports, classification, known _ _ found, ?_⟩
  rw [answersOf, unmoved]
  exact trusted

namespace Attested

/-- A classification that is known was made by one of the formatters. -/
theorem dueTo (attested : session.Attested Holds) (reports : session.replay.Reports value)
    (known : session.known.lookup value.id = some classification) :
    classification.DueTo Holds session.inquiry value := by
  -- A reported value is determined by its identity.
  obtain ⟨other, same, also, due⟩ := attested.known value.id classification known
  rwa [reports.eq_of_id also same] at due

/-- Whoever supplies the children of a value is steady. -/
theorem supplier (attested : session.Attested Holds)
    (due : classification.DueTo Holds session.inquiry value) :
    (childProvider classification).formatter.Steady session.replay.stops :=
  due.childProvider.formatter (Formatter.native_steady _) attested.steady

/-- Classifying a reported value leaves a session that can rely on what it knows. -/
theorem classify (attested : session.Attested Holds) (reports : session.replay.Reports value) :
    (session.classify value).2.Attested Holds := by
  have grown := (session.classify_grows value).known
  refine ⟨attested.steady, attested.registered, attested.formed, ?_,
    fun slot handle found => (attested.handles slot handle found).mono grown rfl⟩
  -- Only the entry of the value itself can be new.
  intro id classification found
  by_cases same : id = value.id
  · subst same
    cases known : session.known.lookup value.id with
    | some earlier =>
      rw [grown _ _ known] at found
      cases found
      exact attested.known _ _ known
    | none =>
      rw [session.classify_lookup value] at found
      cases found
      refine ⟨value, rfl, reports, session.registry, session.ledger, attested.registered, ?_⟩
      simp only [Session.classify, Classifications.classify, known]
      rfl
  · rw [session.classify_known_of_ne same] at found
    exact attested.known _ _ found

/-- Describing a reported value leaves a session that can rely on its handles. -/
theorem describe (attested : session.Attested Holds) (reports : session.replay.Reports value) :
    (session.describe value).2.Attested Holds := by
  have classified := attested.classify reports
  obtain ⟨summary, ledger, left⟩ := session.describe_eq value
  -- A handle is made for the value itself, or one that is there is marked as classified.
  have all : (session.arena.describe value (session.classify value).1 summary).2.All
      (session.classify value).2.Vouches := by
    apply Arena.All.describe classified.handles
    · intro _ target same
      cases same
      exact ⟨reports, _, session.classify_lookup value, Handle.trusted_fresh _ _⟩
    · intro handle vouches target same
      rw [Handle.markClassified_target] at same
      obtain ⟨also, classification, known, trusted⟩ := vouches target same
      exact ⟨also, classification, known, trusted.markClassified _⟩
  rw [left]
  exact ⟨classified.steady, classified.registered,
    (Arena.describe_grows attested.formed value _ summary).1, classified.known, all⟩

/-- The handle of a value is one of a reported value, and what it remembers can be relied on. -/
theorem trusted (attested : session.Attested Holds) {slot : Nat} {handle : Handle}
    (found : session.arena.handle? slot = some handle) (target : handle.target = .value value) :
    session.replay.Reports value ∧
      session.known.lookup value.id = some (session.classify value).1 ∧
      (session.classify value).1.DueTo Holds session.inquiry value ∧
      handle.Trusted (session.answersOf value (session.classify value).1) := by
  -- A value with a handle is known, so classifying it gives what is known.
  obtain ⟨reports, classification, known, trusted⟩ :=
    attested.handles slot handle found value target
  rw [session.classify_of_known value known]
  exact ⟨reports, known, attested.dueTo reports known, trusted⟩

/-- A window on a reported value is served with the answers of the moment. -/
theorem serve_uncached (attested : session.Attested Holds) {slot : Nat} {handle : Handle}
    (found : session.arena.handle? slot = some handle) (target : handle.target = .value value)
    (window : Window) :
    (session.serve slot value window).1 =
      (session.answersOf value (session.classify value).1).uncached
        (session.classify value).1.kind window session.options.maxNamed := by
  -- The handle recalls only what the provider would answer now.
  obtain ⟨_, _, due, trusted⟩ := attested.trusted found target
  have steady := attested.supplier due
  rw [serve_of_handle found]
  exact Handle.enumerate_uncached target trusted.recalls (Inquiry.endForGood_steady steady)
    (Inquiry.answers_steady steady) _ window _ _

/-- Serving a window leaves a session that can rely on the handle that has served it. -/
theorem serve (attested : session.Attested Holds) {slot : Nat} {handle : Handle}
    (found : session.arena.handle? slot = some handle) (target : handle.target = .value value)
    (window : Window) : (session.serve slot value window).2.Attested Holds := by
  -- Serving puts back a handle of the same value, and the page has taught it nothing wrong.
  obtain ⟨reports, _, due, trusted⟩ := attested.trusted found target
  have classified := attested.classify reports
  have framed := (Handle.enumerate_frame handle (session.classify value).1.kind
    (childProvider (session.classify value).1) window session.options.maxNamed session.inquiry
    (session.classify value).2.ledger).1
  rw [serve_of_handle found]
  refine ⟨classified.steady, classified.registered,
    Arena.setHandle_wellFormed attested.formed found framed, classified.known,
    Arena.All.setHandle classified.handles ?_ slot⟩
  intro other same
  rw [framed, target] at same
  cases same
  exact ⟨reports, _, session.classify_lookup value, trusted.enumerate target
    (Inquiry.answers_steady (attested.supplier due)) _ window _ _⟩

/-- A reference that was given out for a value leads to the value. -/
theorem leads (attested : session.Attested Holds) (reports : session.replay.Reports value)
    {shown : Descriptor} (granted : (Grant.value value shown).Holds session)
    (nonzero : shown.reference ≠ 0) :
    ∃ slot handle, session.target? shown.reference = some (slot, .value value) ∧
      session.arena.handle? slot = some handle ∧ handle.target = .value value := by
  -- In a visit that has handed out nothing else the reference leads somewhere.
  have sound : ({ Visit.ofSession session with grants := [.value value shown] } : Visit).Sound :=
    ⟨attested.formed, List.forall_mem_singleton.mpr granted⟩
  obtain ⟨slot, target, leads, subject⟩ := sound.leads (List.mem_singleton_self _) nonzero
  obtain ⟨_, handle, found, aimed⟩ := resolve_of_target leads
  cases target with
  | locals frame => cases subject
  | value other =>
    -- Of one identity only one value is reported.
    obtain ⟨also, _⟩ := attested.handles slot handle found other aimed
    obtain rfl := reports.eq_of_id also (Subject.value.inj subject)
    exact ⟨slot, handle, leads, found, aimed⟩

/-- Where nothing has been learned there is nothing to rely on. -/
theorem of_empty (steady : ∀ formatter, Holds formatter → formatter.Steady session.replay.stops)
    (registered : session.registry.All Holds) (known : session.known = [])
    (handles : session.arena.handles = #[]) (formed : session.arena.WellFormed) :
    session.Attested Holds := by
  -- There is nothing known and no handle of which anything would have to hold.
  refine ⟨steady, registered, formed, fun id classification found => ?_,
    fun slot handle found => ?_⟩
  · rw [known] at found
    cases found
  · simp [Arena.handle?, handles] at found

/-- A step about reported values leaves a session that can rely on what it has learned. -/
theorem perform (attested : session.Attested Holds) {step : Step} (fits : session.Fits step) :
    (session.perform step).Attested Holds := by
  cases step with
  | classify value => exact attested.classify fits
  | describe value => exact attested.describe fits
  | serve slot value window =>
    obtain ⟨handle, found, target⟩ := fits
    exact attested.serve found target window
  | follow value key =>
    -- Asking for a child classifies its value, and only enters a call besides.
    have classified := attested.classify fits
    exact ⟨classified.steady, classified.registered, classified.formed, classified.known,
      classified.handles⟩
  | openFrame frame =>
    refine ⟨attested.steady, attested.registered, (openFrame_grows attested.formed frame).1,
      attested.known, Arena.All.slotForLocals attested.handles ?_⟩
    -- The handle of a frame says nothing about values.
    exact nofun
  | command line =>
    -- The console takes formatters away and adds none.
    have registered := Console.run_all attested.registered line session.ledger
    simp only [Session.perform, runConsole]
    generalize Console.run line session.registry session.ledger = effect at registered ⊢
    exact ⟨attested.steady, registered, attested.formed, attested.known, attested.handles⟩
  | resumed => exact .of_empty attested.steady attested.registered rfl rfl Arena.wellFormed_of_empty
  | stopped reason =>
    simp only [Session.perform, Session.stopped]
    split
    · exact ⟨attested.steady, attested.registered, attested.formed, attested.known,
        attested.handles⟩
    · exact .of_empty attested.steady attested.registered rfl rfl Arena.wellFormed_of_empty
  | proceed kind =>
    -- The program is let run only while nothing is known of its stop.
    obtain ⟨known, handles⟩ := fits
    have stops := (session.perform_program (.proceed kind)).1
    obtain ⟨replay, left⟩ := session.proceed_frame kind
    simp only [Session.perform, left] at stops ⊢
    exact .of_empty (stops ▸ attested.steady) attested.registered known handles attested.formed

end Attested

/-- Sessions with steady formatters can rely on what they have learned of reported values. -/
theorem attested_upheld (Holds : Formatter → Prop) : Upheld (Attested Holds) where
  perform attested fits := attested.perform fits
  served window attested found target child member := by
    -- What a window shows was answered, and a steady formatter answers with reported values.
    obtain ⟨_, _, due, _⟩ := attested.trusted found target
    rw [attested.serve_uncached found target window] at member
    obtain ⟨index, _, given⟩ := ChildAnswers.mem_childrenOf_uncached member
    exact Inquiry.reports_steady (attested.supplier due) given
  followed {session value _ _} attested reports given := by
    have due := (attested.classify reports).dueTo reports (session.classify_lookup value)
    exact Inquiry.reports_steady (attested.supplier due) given

/-- A session that has just begun has learned nothing that could be wrong. -/
theorem start_attested {replay : Replay} {registry : Registry}
    (steady : ∀ formatter, Holds formatter → formatter.Steady replay.stops)
    (registered : registry.All Holds) (options : SessionOptions) :
    (start replay registry options).Attested Holds :=
  .of_empty steady registered rfl rfl Arena.wellFormed_of_empty

/-- Whatever genuine requests a session has served, it can rely on what it has learned. -/
theorem after_attested {replay : Replay} {registry : Registry}
    (steady : ∀ formatter, Holds formatter → formatter.Steady replay.stops)
    (registered : registry.All Holds) {options : SessionOptions} {requests : List (Request Int64)}
    (attended : (start replay registry options).Attended requests) :
    ((start replay registry options).after requests).Attested Holds := by
  -- A visit follows the session, and nothing needs to be true of what is shown.
  have assures : Assures (Attested Holds) fun _ _ _ => True :=
    ⟨attested_upheld Holds, fun _ _ => trivial, fun _ _ _ => trivial⟩
  have upholds := (Visit.Upholds.start (start_attested steady registered options)).askAll assures
    attended
  have follows := (Visit.start replay registry options).askAll_session requests
  exact follows ▸ upholds.session

end Session

end Inspection
