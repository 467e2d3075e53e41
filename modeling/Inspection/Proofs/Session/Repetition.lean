import Inspection.Proofs.Children.Repetition
import Inspection.Proofs.Session.Demand
import Inspection.Proofs.Session.Listing
import Inspection.Proofs.Session.Locality

/-! Listing what a reference leads to a second time answers alike and only repeats what failed. -/

namespace Inspection

namespace Session

variable {session : Session} {value : Value} {shown : Descriptor}

/-- What has been counted says nothing about formatters. -/
theorem Pure.ofLedger (pure : session.Pure) (ledger : Ledger) : Pure { session with ledger } :=
  ⟨pure.registered, pure.remembered⟩

/-- A step keeps formatters pure: it can take some away but cannot bring in new ones. -/
theorem Pure.perform (pure : session.Pure) (step : Step) : (session.perform step).Pure := by
  -- Of a stop that has ended no classification is remembered, so none is of an impure formatter.
  have nothing : ∀ id classification, ([] : Classifications).lookup id = some classification →
      classification.provider.formatter.Pure := nofun
  cases step with
  | classify value => exact (pure.classify value).2
  | follow value key =>
    exact ⟨(pure.classify value).2.registered, (pure.classify value).2.remembered⟩
  | describe value =>
    obtain ⟨_, _, left⟩ := session.describe_eq value
    simp only [Session.perform, left]
    exact ⟨(pure.classify value).2.registered, (pure.classify value).2.remembered⟩
  | serve slot value window =>
    simp only [Session.perform, Session.serve]
    split
    · exact (pure.classify value).2
    · exact ⟨(pure.classify value).2.registered, (pure.classify value).2.remembered⟩
  | openFrame frame => exact ⟨pure.registered, pure.remembered⟩
  | command line =>
    -- What the line does is kept folded, since only its formatters matter.
    have registered := Console.run_all pure.registered line session.ledger
    simp only [Session.perform, runConsole]
    generalize Console.run line session.registry session.ledger = effect at registered ⊢
    exact ⟨registered, pure.remembered⟩
  | resumed => exact ⟨pure.registered, nothing⟩
  | stopped reason =>
    simp only [Session.perform, Session.stopped]
    split
    · -- A fresh session remembers what it did, which is nothing.
      exact ⟨pure.registered, pure.remembered⟩
    · exact ⟨pure.registered, nothing⟩
  | proceed kind =>
    obtain ⟨replay, left⟩ := session.proceed_frame kind
    simp only [Session.perform, left]
    exact ⟨pure.registered, pure.remembered⟩

/-- Any steps keep formatters pure. -/
theorem Pure.performAll (pure : session.Pure) (steps : List Step) :
    (session.performAll steps).Pure := by
  -- The induction is on the steps, from the session that the first one leaves.
  induction steps generalizing session with
  | nil => exact pure
  | cons step rest ih => exact ih (pure.perform step)

/-- Whatever was asked of a session, its formatters stay pure. -/
theorem after_pure (replay : Replay) {registry : Registry} (pure : registry.Pure)
    (options : SessionOptions) (requests : List (Request Int64)) :
    ((start replay registry options).after requests).Pure := by
  -- A visit that follows the session takes its steps.
  have follows := (Visit.start replay registry options).askAll_session requests
  have kept : ∀ (visit : Visit) (step : Step), visit.session.Pure →
      (visit.perform step).session.Pure := by
    intro visit step holds
    rw [Visit.perform_session]
    exact holds.perform step
  have holds := Visit.askAll_invariant kept
    (show (Visit.start replay registry options).session.Pure from ⟨pure, nofun⟩) requests
  rw [follows] at holds
  exact holds

/-- What is asked of a pure formatter does not depend on what has been counted. -/
theorem summary_of_inquiry (session other : Session) (inquiry : other.inquiry = session.inquiry)
    {classification : Classification} (pure : classification.provider.formatter.Pure)
    (value : Value) :
    (other.summary classification value).1 = (session.summary classification value).1 := by
  simp only [summary]
  -- A value that is rendered as it stands is asked for nothing.
  split
  · rfl
  · rw [inquiry]
    exact session.inquiry.summary_unaffected value _ _ pure

/-- A classification that is known changes nothing in a session that is in use. -/
theorem classify_again (used : session.fresh = false) {classification : Classification}
    (known : session.known.lookup value.id = some classification) :
    session.classify value = (classification, session) := by
  rw [session.classify_of_known value known]
  -- Classifying lowers the flag once more, and it has been lowered before.
  cases session
  cases used
  rfl

/-- A value is shown by this descriptor whenever it is described, and nothing changes by that. -/
structure Shows (session : Session) (value : Value) (shown : Descriptor) : Prop where
  used : session.fresh = false
  described : ∃ classification, session.known.lookup value.id = some classification ∧
    session.arena.Shows value classification (session.summary classification value).1 shown

/-- A value that is shown already is described by calls alone, none of which asks for a size. -/
theorem Shows.again (shows : session.Shows value shown) :
    ∃ ledger, session.describe value = (shown, { session with ledger }) ∧
      session.ledger.GrowsWithoutSize ledger := by
  obtain ⟨used, classification, known, there⟩ := shows
  -- The summary is computed anew, and only that can add to the ledger.
  obtain ⟨ledger, left, grows⟩ := session.summary_frame value classification
  refine ⟨ledger, ?_, grows⟩
  simp only [describe, classify_again used known, left]
  rw [there]

/-- What has been counted shows in no descriptor. -/
theorem Shows.ofLedger (shows : session.Shows value shown) (pure : session.Pure)
    (ledger : Ledger) : Shows { session with ledger } value shown := by
  obtain ⟨used, classification, known, there⟩ := shows
  -- The summary alone reads the ledger, and a pure formatter gives the same one.
  have same := summary_of_inquiry session { session with ledger } rfl
    (pure.remembered _ _ known) value
  exact ⟨used, classification, known, same ▸ there⟩

/-- A value that has been described is shown by its descriptor from then on. -/
theorem shows_describe (pure : session.Pure) (formed : session.arena.WellFormed) (value : Value) :
    (session.describe value).2.Shows value (session.describe value).1 := by
  obtain ⟨first, ledger, left⟩ := session.describe_of_summary value
  -- The summary that was shown is the one that the session it left would give.
  have same := summary_of_inquiry (session.classify value).2 (session.describe value).2
    (by rw [left]; rfl) (pure.classify value).1 value
  rw [first]
  refine ⟨by rw [left]; rfl, (session.classify value).1, ?_, ?_⟩
  · rw [left]
    exact session.classify_lookup value
  · rw [same, left]
    exact Arena.shows_describe formed value _ _

/-- What is shown stays shown after another value has been described. -/
theorem Shows.describe (shows : session.Shows value shown) (pure : session.Pure)
    (formed : session.arena.WellFormed) (other : Value) :
    (session.describe other).2.Shows value shown := by
  obtain ⟨used, classification, known, there⟩ := shows
  -- The other value can add a classification and a handle, but replaces neither.
  obtain ⟨_, ledger, left⟩ := session.describe_of_summary other
  have same := summary_of_inquiry session (session.describe other).2
    (by rw [left]; rfl) (pure.remembered _ _ known) value
  refine ⟨by rw [left]; rfl, classification,
    (session.describe_grows formed other).2.known _ _ known, ?_⟩
  rw [same, left]
  exact there.describe formed other _ (session.offeredSummary other)

/-- What an outcome of an enumeration is shown by, now and from then on. -/
def Presents (session : Session) : ChildOutcome → Descriptor → Prop
  | .child child, shown => session.Shows child shown
  | .failed index error, shown => shown = .placeholder index error

/-- What has been counted shows in no descriptor. -/
theorem Presents.ofLedger {outcome : ChildOutcome} (presents : session.Presents outcome shown)
    (pure : session.Pure) (ledger : Ledger) :
    Presents { session with ledger } outcome shown := by
  -- A failure is shown by a placeholder, whatever has been counted.
  cases outcome with
  | child child => exact Shows.ofLedger presents pure ledger
  | failed index error => exact presents

/-- What is presented stays presented after other outcomes have been presented. -/
theorem Presents.present {outcome : ChildOutcome} (presents : session.Presents outcome shown)
    (pure : session.Pure) (formed : session.arena.WellFormed) (outcomes : List ChildOutcome) :
    (session.present outcomes).2.Presents outcome shown := by
  -- The induction is on the outcomes that follow, of which only children are described.
  induction outcomes generalizing session with
  | nil => exact presents
  | cons first rest ih =>
    cases first with
    | child child =>
      -- A description of another child leaves what is shown as it was.
      have next : (session.describe child).2.Presents outcome shown := by
        cases outcome with
        | child other => exact Shows.describe presents pure formed child
        | failed index error => exact presents
      exact ih next (pure.perform (.describe child)) (describe_grows formed child).1
    | failed index error => exact ih presents pure formed

/-- Outcomes that have been presented are presented by their descriptors from then on. -/
theorem present_presents (pure : session.Pure) (formed : session.arena.WellFormed)
    (outcomes : List ChildOutcome) :
    List.Forall₂ (session.present outcomes).2.Presents outcomes (session.present outcomes).1 := by
  -- The induction is on the outcomes: the first is presented, and then survives all the others.
  induction outcomes generalizing session with
  | nil => exact .nil
  | cons first rest ih =>
    cases first with
    | child child =>
      have kept := pure.perform (.describe child)
      have formedThen := (describe_grows formed child).1
      have first : (session.describe child).2.Presents (.child child)
        (session.describe child).1 := shows_describe pure formed child
      exact .cons (first.present kept formedThen rest) (ih kept formedThen)
    | failed index error => exact .cons rfl (ih pure formed)

/-- Outcomes that are presented already are presented by calls alone. -/
theorem present_again (pure : session.Pure) {outcomes : List ChildOutcome}
    {descriptors : List Descriptor}
    (presents : List.Forall₂ session.Presents outcomes descriptors) :
    ∃ ledger, session.present outcomes = (descriptors, { session with ledger }) ∧
      session.ledger.GrowsWithoutSize ledger := by
  -- The induction is on the outcomes; only the ledger has changed when the next one comes.
  induction outcomes generalizing session descriptors with
  | nil =>
    cases presents
    exact ⟨session.ledger, rfl, .of_history_eq rfl⟩
  | cons outcome rest ih =>
    cases presents with
    | cons first later =>
      cases outcome with
      | child child =>
        -- The first child is shown again, and the rest by a session with a longer ledger.
        obtain ⟨ledger, here, grows⟩ := Shows.again first
        obtain ⟨last, there, growsThen⟩ :=
          ih (pure.ofLedger ledger) (later.imp fun _ _ known => known.ofLedger pure ledger)
        refine ⟨last, ?_, grows.trans growsThen⟩
        simp only [present, here, there]
      | failed index error =>
        -- A failure is shown by its placeholder, whatever the session.
        cases first
        obtain ⟨last, there, grows⟩ := ih pure later
        refine ⟨last, ?_, grows⟩
        simp only [present, there]

/-- What a later session keeps: the replay, the limits, being in use, and every handle. -/
structure Keeps (before after : Session) : Prop where
  inquiry : after.inquiry = before.inquiry
  options : after.options = before.options
  used : before.fresh = false → after.fresh = false
  handles : before.arena.Keeps after.arena

/-- Presenting outcomes keeps what it finds. -/
theorem present_keeps (session : Session) (outcomes : List ChildOutcome) :
    session.Keeps (session.present outcomes).2 := by
  -- The induction is on the outcomes, from the session that the first one leaves.
  induction outcomes generalizing session with
  | nil => exact ⟨rfl, rfl, id, .refl _⟩
  | cons first rest ih =>
    cases first with
    | child child =>
      obtain ⟨_, ledger, left⟩ := session.describe_of_summary child
      -- A description moves neither the program nor any handle out of its place.
      have first : session.Keeps (session.describe child).2 := by
        rw [left]
        exact ⟨rfl, rfl, fun _ => rfl,
          .describe session.arena child _ (session.offeredSummary child)⟩
      have later := ih (session.describe child).2
      exact ⟨later.inquiry.trans first.inquiry, later.options.trans first.options,
        fun used => later.used (first.used used), first.handles.trans later.handles⟩
    | failed index error => exact ih session

/-- Presenting outcomes asks for no child. -/
theorem present_asked (session : Session) (outcomes : List ChildOutcome) :
    session.ledger.Asked [] (session.present outcomes).2.ledger := by
  -- Presenting describes children one after the other, and nothing else.
  rw [present_performAll]
  exact (session.performAll_demanded (forall_describes (fun _ => rfl) (childrenOf outcomes))).asked

/-- Serving a window leaves the classification known and the handle in its place. -/
theorem serve_handle {slot : Nat} {handle : Handle}
    (found : session.arena.handle? slot = some handle) (value : Value) (window : Window) :
    (session.serve slot value window).2.known.lookup value.id = some (session.classify value).1 ∧
      ∃ back, (session.serve slot value window).2.arena.handle? slot = some back ∧
        back.target = handle.target := by
  -- The handle that comes back from the page is put where it was.
  rw [serve_of_handle found]
  exact ⟨session.classify_lookup value, _, Arena.handle?_setHandle_self found _,
    (Handle.enumerate_frame ..).1⟩

/-- A window that has been served is served again alike, and only its failures are asked for. -/
theorem serve_again (pure : session.Pure) {slot : Nat} {handle : Handle}
    (found : session.arena.handle? slot = some handle) (target : handle.target = .value value)
    {window : Window} {outcomes : List ChildOutcome} {next later : Session}
    (served : session.serve slot value window = (outcomes, next)) (keeps : next.Keeps later)
    (known : later.known.lookup value.id = some (session.classify value).1) :
    ∃ ledger asked, later.serve slot value window = (outcomes, { later with ledger }) ∧
      later.ledger.GrowsWithoutSize ledger ∧ later.ledger.Asked asked ledger ∧
      (failures outcomes).Sublist
        (window.positions (session.classify value).1.kind session.options.maxNamed) ∧
      List.Forall₂ (fun index call => session.inquiry.Requests
          (childProvider (session.classify value).1) value (.position index) call)
        (failures outcomes) asked := by
  have supplied := childProvider_pure (pure.classify value).1
  rw [serve_of_handle found] at served
  cases served
  have classified := classify_again (keeps.used rfl) known
  -- The handle that was put back has been enumerated, so it still stands in its place.
  obtain ⟨kept, there, _, same⟩ := keeps.handles slot _ (Arena.handle?_setHandle_self found _)
  cases same (Handle.enumerate_resolved target _ _ _ _)
  -- The same page of this handle is asked for, with what has been counted since.
  obtain ⟨answers, unmoved, asked, made, matched⟩ := Handle.enumerate_again session.inquiry supplied
    target (session.classify value).1.kind window session.options.maxNamed
    (session.classify value).2.ledger later.ledger
  have inquiry : later.inquiry = session.inquiry := keeps.inquiry
  have options : later.options = session.options := keeps.options
  rw [serve_of_handle there]
  simp only [classified, inquiry, options, answers, unmoved, Arena.setHandle_of_found there]
  exact ⟨_, asked, rfl, (Handle.enumerate_frame ..).2, made,
    Handle.failures_sublist supplied target _ window _ _, matched⟩

/-- Outcomes that have been presented are presented again alike, whatever has been counted. -/
theorem present_twice (pure : session.Pure) (formed : session.arena.WellFormed)
    {outcomes : List ChildOutcome} {descriptors : List Descriptor} {later : Session}
    (presented : session.present outcomes = (descriptors, later)) (ledger : Ledger) :
    ∃ last, present { later with ledger } outcomes = (descriptors, { later with ledger := last }) ∧
      ledger.GrowsWithoutSize last ∧ ledger.Asked [] last := by
  have presents := present_presents pure formed outcomes
  have kept := pure.performAll ((childrenOf outcomes).map .describe)
  rw [← present_performAll, presented] at kept
  rw [presented] at presents
  -- All outcomes are presented by the session that is left, and by it with another ledger.
  obtain ⟨last, same, grows⟩ :=
    present_again (kept.ofLedger ledger) (presents.imp fun _ _ known => known.ofLedger kept ledger)
  have asked := present_asked { later with ledger } outcomes
  rw [same] at asked
  exact ⟨last, same, grows, asked⟩

/-- A reference leads where it led as long as its handle is kept. -/
theorem target_again {later : Session} {reference : Int64} {slot : Nat} {target : HandleTarget}
    (leads : session.target? reference = some (slot, target))
    (kept : ∀ handle, session.arena.handle? slot = some handle → ∃ other,
      later.arena.handle? slot = some other ∧ other.target = handle.target)
    (generation : later.arena.generation = session.arena.generation) :
    later.target? reference = some (slot, target) := by
  obtain ⟨resolved, handle, found, same⟩ := resolve_of_target leads
  obtain ⟨other, there, also⟩ := kept handle found
  -- The reference is of this generation still, and its place is taken as before.
  rw [target_of_resolve (Arena.resolve_of_keeps resolved there generation) there, also, same]

/-- What a second listing asks for: the failures of the first, if it is of children. -/
def Reasks (session : Session) (reference : Int64) (window : Window) (asked : List Call) : Prop :=
  match session.target? reference with
  | some (slot, .value value) =>
    let classification := (session.classify value).1
    let failed := failures (session.serve slot value window).1
    failed.Sublist (window.positions classification.kind session.options.maxNamed) ∧
      List.Forall₂ (fun index call => session.inquiry.Requests (childProvider classification)
        value (.position index) call) failed asked
  | some (_, .locals _) | none => asked = []

/-- Between a listing and the next one like it only calls are added, which repeat its failures. -/
structure Repeats (session : Session) (reference : Int64) (window : Window)
    (once twice : VariablesAnswer × Session) : Prop where
  answer : twice.1 = once.1
  unmoved : ∃ ledger, twice.2 = { once.2 with ledger }
  unsized : once.2.ledger.GrowsWithoutSize twice.2.ledger
  reasked : ∃ asked, once.2.ledger.Asked asked twice.2.ledger ∧
    session.Reasks reference window asked

/-- A listing that shows nothing is repeated without a call. -/
theorem repeats_refusal {reference : Int64} {window : Window} (answer : VariablesAnswer)
    (refused : session.listVariables reference window = (answer, session))
    (nothing : session.Reasks reference window []) :
    session.Repeats reference window (session.listVariables reference window)
      ((session.listVariables reference window).2.listVariables reference window) := by
  -- The second listing finds the same session.
  rw [refused, refused]
  exact ⟨rfl, ⟨session.ledger, rfl⟩, .of_history_eq rfl, [], .nothing _, nothing⟩

/-- A reference to a frame lists the locals that its window selects. -/
theorem listVariables_of_frame {reference : Int64} {slot frame : Nat} {locals : List Value}
    (leads : session.target? reference = some (slot, .locals frame))
    (located : session.replay.locals frame = .ok locals) (window : Window) :
    session.listVariables reference window =
      let presented := session.present ((window.select locals).map .child)
      (⟨presented.1, none⟩, presented.2) := by
  -- Locals are presented as children that have all been found.
  simp only [listVariables, leads, located, present_children]

/-- The locals of a frame are listed a second time without a request for a child. -/
theorem repeats_locals (pure : session.Pure) (formed : session.arena.WellFormed)
    {reference : Int64} {window : Window} {slot frame : Nat} {locals : List Value}
    (leads : session.target? reference = some (slot, .locals frame))
    (located : session.replay.locals frame = .ok locals) :
    session.Repeats reference window (session.listVariables reference window)
      ((session.listVariables reference window).2.listVariables reference window) := by
  -- Describing the locals moves neither the program nor the handle that leads to them.
  have keeps := session.present_keeps ((window.select locals).map .child)
  have grows := (present_grows formed ((window.select locals).map .child)).2
  rw [listVariables_of_frame leads located]
  rcases presented : session.present ((window.select locals).map .child) with ⟨descriptors, later⟩
  rw [presented] at keeps grows
  obtain ⟨last, again, unsized, unasked⟩ := present_twice pure formed presented later.ledger
  -- The reference still leads to the frame, whose handle keeps its target.
  have leadsAgain : later.target? reference = some (slot, .locals frame) := by
    refine target_again leads (fun handle found => ?_) grows.arena.generation
    obtain ⟨other, there, same, _⟩ := keeps.handles slot handle found
    exact ⟨other, there, same⟩
  have unmoved : later.replay = session.replay := congrArg Inquiry.replay keeps.inquiry
  -- So the second listing describes the same locals once more.
  have repeated : later.listVariables reference window =
      (⟨descriptors, none⟩, { later with ledger := last }) := by
    rw [listVariables_of_frame leadsAgain (unmoved ▸ located)]
    simp only [again]
  simp only [repeated]
  exact ⟨rfl, ⟨last, rfl⟩, unsized, [], unasked, by simp only [Reasks, leads]⟩

/-- The children of a value are listed a second time with requests for those that failed. -/
theorem repeats_value (pure : session.Pure) (formed : session.arena.WellFormed)
    {reference : Int64} {window : Window} {slot : Nat}
    (leads : session.target? reference = some (slot, .value value)) :
    session.Repeats reference window (session.listVariables reference window)
      ((session.listVariables reference window).2.listVariables reference window) := by
  obtain ⟨resolved, handle, found, target⟩ := resolve_of_target leads
  -- The children are served first, and then presented by the session that has served them.
  have kept := pure.perform (.serve slot value window)
  obtain ⟨formedThen, grows⟩ := serve_grows formed slot value window
  obtain ⟨known, back, there, same⟩ := serve_handle found value window
  rcases served : session.serve slot value window with ⟨outcomes, next⟩
  simp only [Session.perform, served] at kept formedThen grows known there
  have keeps := next.present_keeps outcomes
  have growsThen := (present_grows formedThen outcomes).2
  rcases presented : next.present outcomes with ⟨descriptors, later⟩
  rw [presented] at keeps growsThen
  -- The reference still leads to the value through the handle that was put back.
  have leadsAgain : later.target? reference = some (slot, .value value) := by
    refine target_again leads (fun other also => ?_)
      (growsThen.arena.generation.trans grows.arena.generation)
    rw [found] at also
    cases also
    obtain ⟨last, still, sameThen, _⟩ := keeps.handles slot back there
    exact ⟨last, still, sameThen.trans same⟩
  -- Serving again repeats the failures, and presenting again asks for no child.
  obtain ⟨ledger, asked, again, unsized, made, reasked⟩ :=
    serve_again pure found target served keeps (growsThen.known _ _ known)
  obtain ⟨last, shown, unsizedThen, unasked⟩ := present_twice kept formedThen presented ledger
  have once : session.listVariables reference window =
      (⟨descriptors, failureNote value outcomes⟩, later) := by
    simp only [listVariables_of_value resolved found target, expand, served, presented]
  obtain ⟨resolvedAgain, _, foundAgain, targetAgain⟩ := resolve_of_target leadsAgain
  have twice : later.listVariables reference window =
      (⟨descriptors, failureNote value outcomes⟩, { later with ledger := last }) := by
    simp only [listVariables_of_value resolvedAgain foundAgain targetAgain, expand, again, shown]
  -- Of the two parts of the second listing only serving asks for children.
  have all := made.trans unasked
  rw [List.append_nil] at all
  simp only [once, twice]
  exact ⟨rfl, ⟨last, rfl⟩, unsized.trans unsizedThen, asked, all,
    by simpa only [Reasks, leads, served] using reasked⟩

/-- Whatever a reference leads to is listed a second time as it was the first time. -/
theorem repeats_listing (pure : session.Pure) (formed : session.arena.WellFormed)
    (reference : Int64) (window : Window) :
    session.Repeats reference window (session.listVariables reference window)
      ((session.listVariables reference window).2.listVariables reference window) := by
  -- Without a target, or without its locals, there is nothing to be listed.
  rcases leads : session.target? reference with _ | ⟨slot, target⟩
  · exact repeats_refusal _ (by simp only [listVariables, leads]; rfl)
      (by simp only [Reasks, leads])
  · cases target with
    | locals frame =>
      cases located : session.replay.locals frame with
      | error error =>
        exact repeats_refusal _ (by simp only [listVariables, leads, located]; rfl)
          (by simp only [Reasks, leads])
      | ok locals => exact repeats_locals pure formed leads located
    | value value => exact repeats_value pure formed leads

/--
With pure formatters a request for variables can be repeated at any time.

The second answer is the first one, and the second request changes nothing but the ledger.
It asks for no size, and only for those children of the window that failed the first time.
-/
theorem listVariables_repeats (replay : Replay) {registry : Registry} (pure : registry.Pure)
    (options : SessionOptions) (requests : List (Request Int64)) (reference : Int64)
    (window : Window) :
    let session := (start replay registry options).after requests
    let once := session.listVariables reference window
    let twice := once.2.listVariables reference window
    twice.1 = once.1 ∧ (∃ ledger, twice.2 = { once.2 with ledger }) ∧
      once.2.ledger.GrowsWithoutSize twice.2.ledger ∧
      ∃ asked, once.2.ledger.Asked asked twice.2.ledger ∧
        match session.target? reference with
        | some (slot, .value value) =>
          let classification := (session.classify value).1
          let failed := failures (session.serve slot value window).1
          failed.Sublist (window.positions classification.kind session.options.maxNamed) ∧
            List.Forall₂ (fun index call => session.inquiry.Requests (childProvider classification)
              value (.position index) call) failed asked
        | some (_, .locals _) | none => asked = [] := by
  -- Whatever came before, formatters are pure and the look-ups of the arena are right.
  intro session once twice
  have repeats := repeats_listing (after_pure replay pure options requests)
    (after_wellFormed replay registry options requests) reference window
  exact ⟨repeats.answer, repeats.unmoved, repeats.unsized, repeats.reasked⟩

/-- A bag with a child that always fails is listed twice, and only this child is asked for again. -/
theorem listVariables_repeats_of_gaps :
    let registry : Registry := ⟨[⟨"bag", .exact "Bag", gappedBag false⟩]⟩
    let session := (start ⟨[], 0⟩ registry ⟨.unbounded, 100⟩).after [.describe bag]
    let once := session.listVariables 0x100001 ⟨2, none⟩
    let twice := once.2.listVariables 0x100001 ⟨2, none⟩
    registry.Pure ∧ once.1.diagnostic = some "1 requested children of 'v' failed" ∧
      twice.1 = once.1 ∧ (∃ ledger, twice.2 = { once.2 with ledger }) ∧
      ∃ asked, once.2.ledger.Asked asked twice.2.ledger ∧
        asked.map Call.key? = [some (.position 4)] := by
  intro registry session once twice
  have pure : registry.Pure := (gapped_pure false).registered
  have resolved : session.arena.resolve 0x100001 = some 0 := by decide +kernel
  have leads : ((start ⟨[], 0⟩ registry ⟨.unbounded, 100⟩).after [.describe bag]).target?
      0x100001 = some (0, .value bag) := target_of_resolve resolved rfl
  have failed : failures (((start ⟨[], 0⟩ registry ⟨.unbounded, 100⟩).after [.describe bag]).serve
      0 bag ⟨2, none⟩).1 = [4] := by decide +kernel
  obtain ⟨answer, unmoved, _, asked, made, reasked⟩ := listVariables_repeats ⟨[], 0⟩ pure
    ⟨.unbounded, 100⟩ [.describe bag] 0x100001 ⟨2, none⟩
  simp only [leads, failed] at reasked
  -- The request that is made again is for the position of the failure.
  have keys := Inquiry.requests_keys reasked.2
  exact ⟨pure, by decide +kernel, answer, unmoved, asked, made, keys⟩

end Session

end Inspection
