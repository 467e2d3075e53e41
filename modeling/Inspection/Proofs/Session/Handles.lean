import Inspection.Proofs.Descriptor
import Inspection.Proofs.Session.Classification
import Inspection.Proofs.Session.Grants

/-! What a client was given stays true and its references stay good until the stop ends. -/

namespace Inspection

namespace Session

/-- What a later session of the same stop keeps: every classification and every place. -/
structure Grows (before after : Session) : Prop where
  known : ∀ id classification, before.known.lookup id = some classification →
    after.known.lookup id = some classification
  arena : before.arena.Extends after.arena

/-- A session that keeps classifications and arena as they are has kept what it must. -/
theorem Grows.of_eq {before after : Session} (known : after.known = before.known)
    (arena : after.arena = before.arena) : before.Grows after := by
  -- Both parts are kept as they are.
  refine ⟨fun id classification found => by rw [known]; exact found, ?_⟩
  rw [arena]
  exact .refl before.arena

/-- What holds from session to session holds along a stop. -/
theorem Grows.trans {first second third : Session} (early : first.Grows second)
    (late : second.Grows third) : first.Grows third :=
  ⟨fun id classification found => late.known id classification
      (early.known id classification found),
    early.arena.trans late.arena⟩

variable (session : Session) (value : Value)

/-- A classification is known from then on. -/
theorem classify_lookup : (session.classify value).2.known.lookup value.id =
    some (session.classify value).1 := by
  -- Either the classification was known, or it has just been put in front.
  cases known : session.known.lookup value.id with
  | some classification =>
    rw [session.classify_of_known value known]
    exact known
  | none =>
    obtain ⟨_, added, _⟩ := session.classify_of_new value known
    rw [added]
    exact List.lookup_cons_self

variable {value} in
/-- A classification shows in nothing that is known of other identities. -/
theorem classify_known_of_ne {other : ValueId} (different : other ≠ value.id) :
    (session.classify value).2.known.lookup other = session.known.lookup other := by
  -- A new entry stands for the value alone.
  cases known : session.known.lookup value.id with
  | some classification => rw [session.classify_of_known value known]
  | none =>
    obtain ⟨_, added, _⟩ := session.classify_of_new value known
    rw [added, List.lookup_cons, beq_false_of_ne different]

/-- A classification keeps the earlier ones. -/
theorem classify_grows : session.Grows (session.classify value).2 := by
  -- The arena is not touched by a classification.
  refine ⟨fun id classification found => ?_, .refl _⟩
  by_cases same : id = value.id
  · -- What is known of the value is not determined anew.
    subst same
    rw [session.classify_of_known value found]
    exact found
  · rw [session.classify_known_of_ne same]
    exact found

variable {session value}

/-- The summary that the formatter of a value offers for it. -/
def offeredSummary (session : Session) (value : Value) : Option String :=
  ((session.classify value).2.summary (session.classify value).1 value).1

/-- What a description shows and leaves, told from the classification and the summary. -/
theorem describe_of_summary (session : Session) (value : Value) :
    (session.describe value).1 =
        (session.arena.describe value (session.classify value).1 (session.offeredSummary value)).1 ∧
      ∃ ledger, (session.describe value).2 =
        { (session.classify value).2 with
          ledger
          arena := (session.arena.describe value (session.classify value).1
            (session.offeredSummary value)).2 } := by
  -- Asking for a summary touches the ledger alone, so the arena is still that of the session.
  obtain ⟨ledger, left, _⟩ :=
    (session.classify value).2.summary_frame value (session.classify value).1
  have same : (session.classify value).2.arena = session.arena := rfl
  simp only [describe, left, same, offeredSummary]
  exact ⟨trivial, ledger, rfl⟩

/-- What a description leaves, told from the classification it begins with. -/
theorem describe_eq (session : Session) (value : Value) : ∃ summary ledger,
    session.describe value =
      ((session.arena.describe value (session.classify value).1 summary).1,
        { (session.classify value).2 with
          ledger
          arena := (session.arena.describe value (session.classify value).1 summary).2 }) := by
  -- The summary is the one that is offered.
  obtain ⟨shown, ledger, left⟩ := session.describe_of_summary value
  exact ⟨_, ledger, Prod.ext shown left⟩

/-- A description keeps the look-ups right and what was known before. -/
theorem describe_grows (formed : session.arena.WellFormed) (value : Value) :
    (session.describe value).2.arena.WellFormed ∧ session.Grows (session.describe value).2 := by
  -- A description classifies first and offers the value afterwards.
  obtain ⟨summary, ledger, left⟩ := session.describe_eq value
  have grown := Arena.describe_grows formed value (session.classify value).1 summary
  rw [left]
  exact ⟨grown.1, (session.classify_grows value).known, grown.2⟩

/-- A window that is served through a handle is an enumeration of that handle. -/
theorem serve_of_handle {slot : Nat} {handle : Handle}
    (found : session.arena.handle? slot = some handle) (value : Value) (window : Window) :
    session.serve slot value window =
      let served := handle.enumerate (session.classify value).1.kind
        (childProvider (session.classify value).1) window session.options.maxNamed session.inquiry
        (session.classify value).2.ledger
      (served.answer,
        { (session.classify value).2 with
          arena := session.arena.setHandle slot served.handle
          ledger := served.ledger }) := by
  -- Classifying leaves the arena and the limits alone.
  have same : (session.classify value).2.arena = session.arena := rfl
  simp only [serve, same, found]
  rfl

/-- Serving a window keeps the look-ups right and what was known before. -/
theorem serve_grows (formed : session.arena.WellFormed) (slot : Nat) (value : Value)
    (window : Window) :
    (session.serve slot value window).2.arena.WellFormed ∧
      session.Grows (session.serve slot value window).2 := by
  -- Serving classifies first and then replaces one handle by what it has become.
  have classified := session.classify_grows value
  cases found : session.arena.handle? slot with
  | none =>
    have missing : (session.classify value).2.arena.handle? slot = none := found
    simp only [serve, missing]
    exact ⟨formed, classified⟩
  | some handle =>
    -- The served handle is put back under the target it had.
    rw [serve_of_handle found]
    exact ⟨Arena.setHandle_wellFormed formed found (Handle.enumerate_frame handle _ _ _ _ _ _).1,
      classified.known, Arena.setHandle_extends _ _ _⟩

/-- Presenting outcomes keeps the look-ups right and what was known before. -/
theorem present_grows (formed : session.arena.WellFormed)
    (outcomes : List ChildOutcome) :
    (session.present outcomes).2.arena.WellFormed ∧
      session.Grows (session.present outcomes).2 := by
  -- The induction is on the outcomes, of which only the children are described.
  induction outcomes generalizing session with
  | nil => exact ⟨formed, .of_eq rfl rfl⟩
  | cons outcome rest ih =>
    cases outcome with
    | child child =>
      obtain ⟨described, grows⟩ := describe_grows formed child
      obtain ⟨presented, further⟩ := ih described
      exact ⟨presented, grows.trans further⟩
    | failed index error => exact ih formed

/-- Giving out the reference to a frame's locals keeps the look-ups right and every place. -/
theorem openFrame_grows (formed : session.arena.WellFormed) (frame : Nat) :
    (session.openFrame frame).2.arena.WellFormed ∧ session.Grows (session.openFrame frame).2 := by
  -- Nothing is classified, and the frame keeps the place it has or gets one.
  have grown := Arena.slotForLocals_grows formed frame
  exact ⟨grown.1, fun _ _ found => found, grown.2⟩

/-- A step within a stop keeps the look-ups right and what was known before. -/
theorem perform_grows (formed : session.arena.WellFormed) {step : Step}
    (stays : session.endsStop step = false) :
    (session.perform step).arena.WellFormed ∧ session.Grows (session.perform step) := by
  -- Each step within a stop is one of those above, or touches neither part.
  cases step with
  | classify value => exact ⟨formed, session.classify_grows value⟩
  | describe value => exact describe_grows formed value
  | serve slot value window => exact serve_grows formed slot value window
  | follow value key => exact ⟨formed, (session.classify_grows value).trans (.of_eq rfl rfl)⟩
  | openFrame frame => exact openFrame_grows formed frame
  | command line =>
    obtain ⟨registry, ledger, left, _⟩ := session.runConsole_frame line
    simp only [perform, left]
    exact ⟨formed, .of_eq rfl rfl⟩
  | resumed => cases stays
  | stopped reason =>
    rw [perform_stopped stays]
    exact ⟨formed, .of_eq rfl rfl⟩
  | proceed kind =>
    obtain ⟨replay, left⟩ := session.proceed_frame kind
    simp only [perform, left]
    exact ⟨formed, .of_eq rfl rfl⟩

end Session

/-- What a session answers for when it has given out a reference. -/
def Grant.Holds (session : Session) : Grant → Prop
  | .locals frame reference =>
    ∃ slot, session.arena.place? (.locals frame) = some slot ∧
      reference = session.arena.referenceAt slot
  | .value shown descriptor =>
    ∃ classification, session.known.lookup shown.id = some classification ∧
      (∀ count, descriptor.indexedCount = some count ↔ classification.kind = .indexed count) ∧
      (∀ count, classification.kind = .indexed count → descriptor.namedCount = none) ∧
      if classification.isExpandable shown then
        ∃ slot, session.arena.place? (.value shown.id) = some slot ∧
          descriptor.reference = session.arena.referenceAt slot
      else descriptor.reference = 0

/-- What was given out holds in every later session of the stop. -/
theorem Grant.Holds.mono {before after : Session} {grant : Grant} (holds : grant.Holds before)
    (grows : before.Grows after) : grant.Holds after := by
  -- What holds is told by the classification and the place, and both are kept.
  cases grant with
  | locals frame reference =>
    obtain ⟨slot, placed, same⟩ := holds
    exact ⟨slot, grows.arena.places _ slot placed, same.trans (grows.arena.referenceAt slot).symm⟩
  | value shown descriptor =>
    obtain ⟨classification, known, indexed, named, offered⟩ := holds
    refine ⟨classification, grows.known _ _ known, indexed, named, ?_⟩
    split
    · rename_i expandable
      rw [if_pos expandable] at offered
      obtain ⟨slot, placed, same⟩ := offered
      exact ⟨slot, grows.arena.places _ slot placed, same.trans (grows.arena.referenceAt slot).symm⟩
    · rename_i flat
      rw [if_neg flat] at offered
      exact offered

/-- What a step gives out holds after it. -/
theorem Session.grants_hold {session : Session} (formed : session.arena.WellFormed) (step : Step) :
    ∀ grant ∈ session.grants step, grant.Holds (session.perform step) := by
  -- Only a description and the opening of a frame give anything out.
  intro grant given
  cases step with
  | describe value =>
    obtain ⟨summary, ledger, left⟩ := session.describe_eq value
    rw [List.mem_singleton.mp given]
    simp only [perform, left]
    refine ⟨(session.classify value).1, session.classify_lookup value, ?_, ?_, ?_⟩
    · exact Arena.describe_indexedCount session.arena value _ summary
    · exact fun count => Arena.describe_namedCount_of_indexed session.arena value summary
    · exact Arena.describe_reference formed value _ summary
  | openFrame frame =>
    rw [List.mem_singleton.mp given]
    exact ⟨_, Arena.slotForLocals_place session.arena frame, rfl⟩
  | classify _ | serve _ _ _ | follow _ _ | command _ | resumed | stopped _ | proceed _ =>
    cases given

namespace Visit

/-- The look-ups of the arena are right and everything given out holds. -/
structure Sound (visit : Visit) : Prop where
  formed : visit.session.arena.WellFormed
  holds : ∀ grant ∈ visit.grants, grant.Holds visit.session

/-- Every step leaves a sound visit. -/
theorem Sound.perform {visit : Visit} (step : Session.Step) (sound : visit.Sound) :
    (visit.perform step).Sound := by
  -- Where the stop ends the record is empty; within it the session only grows.
  cases ends : visit.session.endsStop step with
  | true =>
    simp only [Visit.perform, ends, if_true]
    obtain ⟨stop, left⟩ := visit.session.perform_of_end ends
    rw [left]
    -- No handle is left, and nothing is on the record.
    exact ⟨Arena.wellFormed_of_empty, fun grant given => by cases given⟩
  | false =>
    simp only [Visit.perform, ends, Bool.false_eq_true, if_false]
    obtain ⟨formed, grows⟩ := Session.perform_grows sound.formed ends
    refine ⟨formed, fun grant given => ?_⟩
    rcases List.mem_append.mp given with earlier | new
    · exact (sound.holds grant earlier).mono grows
    · exact Session.grants_hold sound.formed step grant new

/-- Every visit is sound after any requests. -/
theorem sound_askAll (replay : Replay) (registry : Registry) (options : SessionOptions)
    (requests : List (Session.Request Int64)) :
    ((start replay registry options).askAll requests).Sound := by
  -- Every step leaves a sound visit, so the induction over steps and requests applies.
  apply askAll_invariant (fun _ step => Sound.perform step)
  -- A new session has given out nothing.
  exact ⟨Arena.wellFormed_of_empty, fun grant given => by cases given⟩

/-- A reference that is not empty belongs to a place that its subject has and that resolves. -/
theorem Sound.place {visit : Visit} (sound : visit.Sound) {grant : Grant}
    (given : grant ∈ visit.grants) (nonzero : grant.reference ≠ 0) :
    ∃ slot, visit.session.arena.place? grant.subject = some slot ∧
      grant.reference = visit.session.arena.referenceAt slot ∧ slot < Arena.capacity := by
  -- Where nothing was offered or the place does not fit, the reference is empty.
  have holds := sound.holds grant given
  cases grant with
  | locals frame reference =>
    obtain ⟨slot, placed, same⟩ := holds
    have reached : visit.session.arena.referenceAt slot ≠ 0 := fun zero => nonzero (same.trans zero)
    exact ⟨slot, placed, same, Arena.referenceAt_ne_zero_iff.mp reached⟩
  | value shown descriptor =>
    obtain ⟨classification, _, _, _, offered⟩ := holds
    split at offered
    · obtain ⟨slot, placed, same⟩ := offered
      have reached : visit.session.arena.referenceAt slot ≠ 0 :=
        fun zero => nonzero (same.trans zero)
      exact ⟨slot, placed, same, Arena.referenceAt_ne_zero_iff.mp reached⟩
    · exact absurd offered nonzero

/-- A descriptor carries the counts and the reference that classification and place allow. -/
theorem Sound.descriptor {visit : Visit} (sound : visit.Sound) {value : Value} {shown : Descriptor}
    (given : .value value shown ∈ visit.grants) :
    ∃ classification, visit.session.known.lookup value.id = some classification ∧
      (∀ count, shown.indexedCount = some count ↔ classification.kind = .indexed count) ∧
      (∀ count, classification.kind = .indexed count → shown.namedCount = none) ∧
      (shown.reference ≠ 0 ↔ classification.isExpandable value = true ∧
        ∃ slot, visit.session.arena.place? (.value value.id) = some slot ∧
          slot < Arena.capacity) := by
  -- The counts are part of what holds; only the reference is left.
  obtain ⟨classification, known, indexed, named, offered⟩ := sound.holds _ given
  refine ⟨classification, known, indexed, named, ?_⟩
  split at offered
  · -- An offered value has a place, and the reference is empty only beyond the capacity.
    rename_i expandable
    obtain ⟨slot, placed, same⟩ := offered
    rw [same, Arena.referenceAt_ne_zero_iff]
    constructor
    · exact fun fits => ⟨expandable, slot, placed, fits⟩
    · rintro ⟨_, other, again, fits⟩
      rw [placed] at again
      cases again
      exact fits
  · rename_i flat
    exact ⟨fun nonzero => absurd offered nonzero, fun both => absurd both.1 flat⟩

/-- A reference that is not empty resolves to a handle of its subject. -/
theorem Sound.resolves {visit : Visit} (sound : visit.Sound) {grant : Grant}
    (given : grant ∈ visit.grants) (nonzero : grant.reference ≠ 0) :
    ∃ slot handle, visit.session.arena.resolve grant.reference = some slot ∧
      visit.session.arena.handle? slot = some handle ∧ handle.target.subject = grant.subject := by
  -- A place in use is one of the arena, and the reference to it resolves.
  obtain ⟨slot, placed, same, fits⟩ := sound.place given nonzero
  obtain ⟨handle, found, subject⟩ := sound.formed grant.subject slot placed
  refine ⟨slot, handle, ?_, found, subject⟩
  rw [same]
  exact Arena.resolve_reference fits (sound.formed.lt_size placed)

/-- A reference that is not empty leads to a target of its subject. -/
theorem Sound.leads {visit : Visit} (sound : visit.Sound) {grant : Grant}
    (given : grant ∈ visit.grants) (nonzero : grant.reference ≠ 0) :
    ∃ slot target, visit.session.target? grant.reference = some (slot, target) ∧
      target.subject = grant.subject := by
  -- The handle that is resolved to has the target.
  obtain ⟨slot, handle, resolved, found, subject⟩ := sound.resolves given nonzero
  exact ⟨slot, handle.target, Session.target_of_resolve resolved found, subject⟩

/-- An issued reference that is not empty is that of a place in use, and leads there. -/
theorem Sound.issued_place {visit : Visit} (sound : visit.Sound) {reference : Int64}
    (issued : visit.Issued reference) (nonzero : reference ≠ 0) :
    ∃ slot handle, slot < Arena.capacity ∧ reference = visit.session.arena.referenceAt slot ∧
      visit.session.arena.handle? slot = some handle ∧
      visit.session.target? reference = some (slot, handle.target) := by
  -- The reference is on the record, where it belongs to a place.
  rcases issued with empty | ⟨grant, given, same⟩
  · exact absurd empty nonzero
  · rw [← same] at nonzero
    obtain ⟨slot, placed, word, fits⟩ := sound.place given nonzero
    obtain ⟨handle, found, _⟩ := sound.formed grant.subject slot placed
    have resolved := Arena.resolve_reference fits (sound.formed.lt_size placed)
    rw [word] at same
    refine ⟨slot, handle, fits, same.symm, found, ?_⟩
    simp only [Session.target?, ← same, resolved, found, Option.bind_eq_bind, Option.bind_some,
      Option.pure_def]

end Visit

end Inspection
