import Mathlib.Data.List.Forall2
import Inspection.Proofs.Session.Faithful
import Inspection.Proofs.Session.Program

/-! Every reference that a session gives out lists what is recorded, window by window. -/

namespace Inspection

namespace Session

/-- Children that are all there are presented as they are described. -/
theorem present_children (session : Session) (values : List Value) :
    session.present (values.map .child) = session.describeAll values := by
  -- The induction is on the values; there is no outcome that could be a stand-in.
  induction values generalizing session with
  | nil => rfl
  | cons value rest ih =>
    simp only [List.map_cons, present, describeAll, ih]

/-- Where no child has failed nothing is noted. -/
theorem failureNote_children (value : Value) (values : List Value) :
    failureNote value (values.map .child) = none := by
  -- The count of failures is zero.
  have none : (values.map ChildOutcome.child).countP isFailure = 0 := by
    apply List.countP_eq_zero.mpr
    intro outcome member
    obtain ⟨child, _, same⟩ := List.mem_map.mp member
    rw [← same]
    exact nofun
  simp only [failureNote, none]
  rfl

end Session

namespace Visit

/-- What a visit has learned and handed out is recorded at its stop. -/
structure Faithful (visit : Visit) : Prop where
  sound : visit.Sound
  session : visit.session.Faithful
  shown : ∀ value descriptor, .value value descriptor ∈ visit.grants →
    ∃ node, visit.session.replay.Has value node ∧ descriptor.Shows node

/-- A faithful visit upholds what is recorded. -/
theorem faithful_iff {visit : Visit} :
    visit.Faithful ↔ visit.Upholds Session.Faithful fun session value shown =>
      ∃ node, session.replay.Has value node ∧ shown.Shows node :=
  ⟨fun ⟨sound, session, shown⟩ => ⟨sound, session, shown⟩,
    fun ⟨sound, session, shown⟩ => ⟨sound, session, shown⟩⟩

/-- Faithful sessions show what is recorded. -/
theorem faithful_assures : Session.Assures Session.Faithful fun session value shown =>
    ∃ node, session.replay.Has value node ∧ shown.Shows node where
  upheld := Session.faithful_upheld
  described faithful reports := by
    -- What is shown is recorded where the program still waits.
    obtain ⟨node, has⟩ := reports
    obtain ⟨shows, _, same⟩ := faithful.describe has
    rw [same]
    exact ⟨node, has, shows⟩
  kept {before after _ _} _ unmoved recorded := by
    -- Nothing but a resume moves the program.
    have same : after.replay = before.replay := congrArg Inquiry.replay unmoved
    rw [same]
    exact recorded

/-- A step that has what it needs leaves a faithful visit. -/
theorem Faithful.perform {visit : Visit} (faithful : visit.Faithful) {step : Session.Step}
    (fits : visit.session.Fits step) : (visit.perform step).Faithful :=
  faithful_iff.mpr ((faithful_iff.mp faithful).perform faithful_assures fits)

/-- A visit without registered formatters is faithful after plain requests. -/
theorem faithful_askAll (replay : Replay) (options : SessionOptions)
    {requests : List (Session.Request Int64)} (plain : ∀ request ∈ requests, request.Plain) :
    ((start replay .empty options).askAll requests).Faithful := by
  -- Plain requests are genuine, and a new session has learned nothing that could be wrong.
  have begun : (Session.start replay .empty options).Faithful :=
    Session.faithful_of_empty rfl rfl rfl Arena.wellFormed_of_empty
  exact faithful_iff.mpr ((Upholds.start begun).askAll faithful_assures
    (Session.attended_of_plain _ plain))

/-- A frame whose locals were given out is recorded. -/
theorem Faithful.locals {visit : Visit} (faithful : visit.Faithful) {frame : Nat}
    {reference : Int64} (given : .locals frame reference ∈ visit.grants) :
    ∃ values, visit.session.replay.locals frame = .ok values := by
  -- The reference has a place, and the handle there was made for a recorded frame.
  obtain ⟨slot, placed, _⟩ := faithful.sound.holds _ given
  obtain ⟨handle, found, subject⟩ := faithful.sound.formed _ slot placed
  have known := faithful.session.handles slot handle found
  cases target : handle.target with
  | value value =>
    rw [target] at subject
    cases subject
  | locals other =>
    rw [target] at subject
    cases subject
    simp only [Handle.Faithful, target] at known
    exact known

/-- What a reference lists in a window: recorded values in order, each handed out as it is shown. -/
def Lists (visit : Visit) (reference : Int64) (window : Window)
    (entries : List (ValueId × RecordedValue)) : Prop :=
  (visit.session.listVariables reference window).1.diagnostic = none ∧
    List.Forall₂ (fun entry shown => shown.Shows entry.2 ∧
        .value (entry.2.toValue entry.1) shown ∈
          (visit.ask (.listVariables reference window)).grants)
      entries (visit.session.listVariables reference window).1.descriptors

/-- Recorded values are described in order, each as it is recorded. -/
theorem Faithful.describeAll {visit : Visit} (faithful : visit.Faithful)
    {entries : List (ValueId × RecordedValue)}
    (recorded : ∀ entry ∈ entries, visit.session.replay.node entry.1 = .ok entry.2) :
    List.Forall₂ (fun entry shown => shown.Shows entry.2 ∧
        .value (entry.2.toValue entry.1) shown ∈
          (visit.performAll ((valuesOf entries).map .describe)).grants)
      entries (visit.session.describeAll (valuesOf entries)).1 := by
  -- The induction is on the entries, from the visit that the first description leaves.
  induction entries generalizing visit with
  | nil => exact .nil
  | cons entry rest ih =>
    -- The first entry is shown as it is recorded.
    have has := Replay.has_toValue (recorded entry List.mem_cons_self)
    obtain ⟨shows, _, same⟩ := faithful.session.describe has
    have fits : visit.session.Fits (.describe (entry.2.toValue entry.1)) := ⟨entry.2, has⟩
    refine .cons ⟨shows, grants_subset_describes _ (valuesOf rest)
      (visit.describe_granted (entry.2.toValue entry.1))⟩ ?_
    -- The rest is described at the same place of the program.
    have later := ih (faithful.perform fits) fun other member => by
      rw [perform_session]
      simp only [Session.perform, same]
      exact recorded other (List.mem_cons_of_mem entry member)
    rw [perform_session] at later
    exact later

/-- A reference to the locals of a frame lists what is recorded in the frame. -/
theorem Faithful.lists_locals {visit : Visit} (faithful : visit.Faithful) {reference : Int64}
    {slot frame : Nat} (leads : visit.session.target? reference = some (slot, .locals frame))
    {stop : RecordedStop} {recorded : RecordedFrame}
    (current : visit.session.replay.stops[visit.session.replay.cursor]? = some stop)
    (held : stop.frames[frame]? = some recorded) (window : Window) :
    visit.Lists reference window (window.shown none (recorded.entries frame)) := by
  -- The handle was made for the frame that is recorded under its number.
  obtain ⟨_, handle, found, target⟩ := Session.resolve_of_target leads
  have known := faithful.session.handles slot handle found
  simp only [Handle.Faithful, target] at known
  obtain ⟨values, located⟩ := known
  obtain ⟨same, also, there, holds, values⟩ := Replay.locals_eq_ok located
  rw [current] at there
  cases there
  rw [held] at holds
  cases holds
  have selected : window.select (valuesOf (recorded.entries frame)) =
      valuesOf (window.shown none (recorded.entries frame)) := by
    rw [Window.select_eq_shown, valuesOf, Window.shown_map]
    rfl
  -- The listing describes what the window selects, one after the other.
  have there : ∀ entry ∈ window.shown none (recorded.entries frame),
      visit.session.replay.node entry.1 = .ok entry.2 :=
    fun entry member => Replay.node_of_frame current held (Window.mem_of_mem_shown member)
  have described := faithful.describeAll there
  simp only [Lists, Visit.ask, Session.steps, Session.listVariables, Session.listingSteps, leads,
    located, values, selected]
  exact ⟨trivial, described⟩

/-- A reference to a value lists what is recorded below the value. -/
theorem Faithful.lists_value {visit : Visit} (faithful : visit.Faithful) {reference : Int64}
    {slot : Nat} {value : Value}
    (leads : visit.session.target? reference = some (slot, .value value))
    {node : RecordedValue} (recorded : visit.session.replay.node value.id = .ok node)
    (window : Window) :
    visit.Lists reference window (window.shown
      (node.childrenKind.limit? visit.session.options.maxNamed) (node.entries value.id)) := by
  -- The children are served as recorded, and then described one after the other.
  obtain ⟨_, handle, found, target⟩ := Session.resolve_of_target leads
  obtain ⟨same, has, answer, served, unmoved⟩ := faithful.session.serve found target window
  have one := has.1
  rw [recorded] at one
  cases one
  have fits : visit.session.Fits (.serve slot value window) := ⟨handle, found, target⟩
  -- The window may be cut before or after identities are attached.
  have shown : window.shown (node.childrenKind.limit? visit.session.options.maxNamed)
      (valuesOf (node.entries value.id)) = valuesOf (window.shown
        (node.childrenKind.limit? visit.session.options.maxNamed) (node.entries value.id)) := by
    rw [valuesOf, Window.shown_map]
    rfl
  rw [shown] at answer
  -- The children are described in the visit that serving them leaves.
  have below : ∀ entry ∈ window.shown
      (node.childrenKind.limit? visit.session.options.maxNamed) (node.entries value.id),
        (visit.perform (.serve slot value window)).session.replay.node entry.1 = .ok entry.2 := by
    intro entry member
    rw [perform_session]
    simp only [Session.perform, unmoved]
    exact Replay.node_of_parent recorded (Window.mem_of_mem_shown member)
  have described := (faithful.perform fits).describeAll below
  rw [perform_session] at described
  simp only [Lists, Visit.ask, Session.steps, Session.listVariables, Session.listingSteps, leads,
    Session.expand, answer, Session.failureNote_children, Session.present_children,
    Session.childrenOf_map_child]
  exact ⟨trivial, described⟩

end Visit

/-- The limit of a window is that of the recorded kind: none for an array. -/
theorem RecordedValue.limit_eq (node : RecordedValue) (maxNamed : Nat) :
    node.childrenKind.limit? maxNamed = if node.kind = .array then none else some maxNamed := by
  -- Only an array has a number of children that is known from the start.
  cases kind : node.kind <;> simp [childrenKind, kind, ChildrenKind.limit?]

namespace Visit

/--
Without registered formatters every reference of the current stop lists what is recorded.

The visit follows the session through the requests.
Whatever reference an answer shows is empty or on the record of the stop.
A reference to locals denotes a recorded frame, and one to a value denotes a recorded value.
Every window on it answers without a diagnostic and shows the recorded run in recording order.
Each descriptor shows what is recorded of its value, and has a reference if there is one to give.
-/
theorem listing_faithful (replay : Replay) (options : SessionOptions)
    {requests : List (Session.Request Int64)} (plain : ∀ request ∈ requests, request.Plain) :
    let visit := (start replay .empty options).askAll requests
    visit.session = (Session.start replay .empty options).after requests ∧
      (∀ request, ∀ reference ∈ (visit.session.respond request).1.references,
        (visit.ask request).Issued reference) ∧
      (∀ frame reference, .locals frame reference ∈ visit.grants →
        ∃ stop recorded, visit.session.replay.stops[visit.session.replay.cursor]? = some stop ∧
          stop.frames[frame]? = some recorded ∧
          (reference ≠ 0 → ∀ window,
            visit.Lists reference window (window.shown none (recorded.entries frame)))) ∧
      ∀ value shown, .value value shown ∈ visit.grants →
        ∃ stop node, visit.session.replay.stops[visit.session.replay.cursor]? = some stop ∧
          stop.find? value.id = some node ∧ value = node.toValue value.id ∧ shown.Shows node ∧
          (shown.reference ≠ 0 ↔ (node.kind = .pointer ∨ node.offspring ≠ []) ∧
            ∃ slot, visit.session.arena.place? (.value value.id) = some slot ∧
              slot < Arena.capacity) ∧
          (shown.reference ≠ 0 → ∀ window, visit.Lists shown.reference window
            (window.shown (if node.kind = .array then none else some options.maxNamed)
              (node.entries value.id))) := by
  -- What has been handed out leads to its target, and the target lists what is recorded of it.
  intro visit
  have faithful : visit.Faithful := faithful_askAll replay options plain
  have same : visit.session = (Session.start replay .empty options).after requests :=
    (start replay .empty options).askAll_session requests
  -- No request changes the limits that the session was begun with.
  have limits : visit.session.options = options := by
    rw [same]
    exact ((Session.start replay .empty options).after_program requests).2
  refine ⟨same, fun request => visit.issued_of_answer request, ?_, ?_⟩
  · intro frame reference given
    obtain ⟨values, located⟩ := faithful.locals given
    obtain ⟨stop, recorded, current, held, _⟩ := Replay.locals_eq_ok located
    refine ⟨stop, recorded, current, held, fun nonzero window => ?_⟩
    obtain ⟨slot, target, leads, subject⟩ := faithful.sound.leads given nonzero
    -- Only the locals of a frame are given out for the frame.
    cases target with
    | value value => cases subject
    | locals other =>
      cases subject
      exact faithful.lists_locals leads current held window
  · intro value shown given
    obtain ⟨node, has, shows⟩ := faithful.shown value shown given
    obtain ⟨stop, current, located⟩ := Replay.node_eq_ok.mp has.1
    -- A reference was offered exactly where the recorded value can be expanded.
    obtain ⟨classification, known, _, _, offered⟩ := faithful.sound.descriptor given
    obtain ⟨same, recorded, answer⟩ := faithful.session.known _ _ known
    rw [has.1] at recorded
    cases recorded
    rw [answer, RecordedValue.isExpandable_eq has.2, RecordedValue.isExpandable_iff] at offered
    refine ⟨stop, node, current, located, has.2, shows, offered, fun nonzero window => ?_⟩
    obtain ⟨slot, target, leads, subject⟩ := faithful.sound.leads given nonzero
    cases target with
    | locals frame => cases subject
    | value other =>
      -- The target is the value itself, for its identity is.
      have identity : other.id = value.id := Subject.value.inj subject
      have listed := faithful.lists_value leads (identity ▸ has.1) window
      rw [limits, RecordedValue.limit_eq, identity] at listed
      exact listed

/-- A record found among the locals lists its members, here from the second on. -/
theorem listing_faithful_of_record :
    let point : RecordedValue := ⟨"point", "Point", "\x7b..\x7d", .record,
      [⟨"x", "int", "1", .scalar, []⟩, ⟨"y", "int", "2", .scalar, []⟩]⟩
    let visit := (start ⟨[⟨.entry, [⟨"main", [point]⟩]⟩], 0⟩ .empty ⟨.unbounded, 100⟩).askAll
      [.scopes 0, .listVariables 0x100001 .all]
    .value (point.toValue (.slot 0 0))
        ⟨"point", "\x7b..\x7d", "Point", 0x100002, none, some 2⟩ ∈ visit.grants ∧
      (visit.session.listVariables 0x100002 ⟨1, some 5⟩).1.diagnostic = none := by
  intro point visit
  have given : .value (point.toValue (.slot 0 0))
      ⟨"point", "\x7b..\x7d", "Point", 0x100002, none, some 2⟩ ∈ visit.grants := by
    decide +kernel
  refine ⟨given, ?_⟩
  have plain : ∀ request ∈ ([.scopes 0, .listVariables 0x100001 .all] :
      List (Session.Request Int64)), request.Plain := by
    intro request member
    simp only [List.mem_cons, List.not_mem_nil, or_false] at member
    rcases member with rfl | rfl <;> trivial
  -- The point has been given out with a reference, which lists its window.
  obtain ⟨_, _, _, values⟩ := listing_faithful ⟨[⟨.entry, [⟨"main", [point]⟩]⟩], 0⟩
    ⟨.unbounded, 100⟩ plain
  obtain ⟨_, _, _, _, _, _, _, lists⟩ := values _ _ given
  exact (lists (by decide) ⟨1, some 5⟩).1

end Visit

end Inspection
