import Inspection.Proofs.Session.Leads

/-! Expanding a value and evaluating a longer path agree on the child in a position. -/

namespace Inspection

/-- Where a window of one position is not cut off, it shows the child that is there. -/
theorem ChildAnswers.uncached_single {answers : ChildAnswers} {index : Nat} {child : Value}
    (below : index < maxPosition) {kind : ChildrenKind}
    (within : ∀ count, kind = .indexed count → index < count) (maxNamed : Nat)
    (given : answers index = .ok (some child)) :
    answers.uncached kind ⟨index, some 1⟩ maxNamed = [.child child] := by
  -- Of one position there is one answer to look at, so where an enumeration ends does not matter.
  have covered := Window.positions_single below within maxNamed
  cases kind with
  | indexed count => simp only [uncached, covered, List.map_singleton, promised, given]
  | named | undeclared => simp only [uncached, covered, untilEnd, given]

/-- What holds of the locals of a stop and passes on to children holds of all that is found. -/
theorem RecordedStop.find?_invariant (Holds : RecordedValue → Prop) {stop : RecordedStop}
    (locals : ∀ frame ∈ stop.frames, ∀ node ∈ frame.locals, Holds node)
    (below : ∀ node, Holds node → ∀ child ∈ node.offspring, Holds child) {id : ValueId}
    {node : RecordedValue} (found : stop.find? id = some node) : Holds node := by
  -- The induction is on the identity, which says on which way the value was found.
  induction id generalizing node with
  | given _ => cases found
  | slot frame place =>
    obtain ⟨recorded, held, at_⟩ := Option.bind_eq_some_iff.mp found
    exact locals recorded (List.mem_of_getElem? held) node (List.mem_of_getElem? at_)
  | child key parent ih =>
    -- Only positions lead to recorded children, so a member's identity finds nothing.
    cases key with
    | member name => cases found
    | position index =>
      obtain ⟨above, held, at_⟩ := Option.bind_eq_some_iff.mp found
      exact below above (ih held) node (List.mem_of_getElem? at_)

namespace Replay

/-- No value of a recording has more children than there are positions. -/
def Addressable (replay : Replay) : Prop :=
  ∀ stop ∈ replay.stops, ∀ id node, stop.find? id = some node →
    node.offspring.length ≤ maxPosition

/-- The children of a value of the current stop can all be addressed. -/
theorem Addressable.length_le {replay : Replay} (addressable : replay.Addressable) {id : ValueId}
    {node : RecordedValue} (found : replay.node id = .ok node) :
    node.offspring.length ≤ maxPosition := by
  -- A value of the program is one of the stop that the program has come to.
  obtain ⟨stop, current, recorded⟩ := node_eq_ok.mp found
  exact addressable stop (List.mem_of_getElem? current) id node recorded

/-- What can be addressed is a matter of the recording, not of where the program has come to. -/
theorem Addressable.of_stops {replay later : Replay} (addressable : replay.Addressable)
    (same : later.stops = replay.stops) : later.Addressable := by
  rw [Addressable, same]
  exact addressable

end Replay

namespace Session

variable {session : Session} {value child : Value} {index slot : Nat} {frame : Nat}
  {path : Path} {shown named : Descriptor}

/-- The answers for the positions of a located value are those that a walk is given. -/
theorem Located.answers (located : session.Located frame path value shown) (index : Nat) :
    session.answersOf value (session.classify value).1 index =
      (session.follow value (.position index)).1 :=
  session.inquiry.child_unaffected value _ _ (childProvider_pure (located.pure.classify value).1) _

namespace Offers

variable {key : ChildKey} (offers : session.Offers frame path value shown key child named)

include offers

/-- What is offered stays so after a window of the value has been served. -/
theorem served {handle : Handle} (found : session.arena.handle? slot = some handle)
    (target : handle.target = .value value) (window : Window) :
    (session.serve slot value window).2.Offers frame path value shown key child named := by
  -- Serving classifies the value, which is known already, and puts its handle back.
  have located := offers.located
  obtain ⟨_, grows⟩ := serve_grows located.attested.formed slot value window
  have unmoved : (session.perform (.serve slot value window)).inquiry = session.inquiry :=
    session.inquiry_of_quiet rfl
  have kept : (session.perform (.serve slot value window)).Located frame path value shown :=
    located.perform rfl ⟨handle, found, target⟩
  rw [Session.perform] at unmoved kept
  refine ⟨kept, ?_, ?_⟩
  · -- The walk to the child asks the same formatters as before.
    rw [located.follow_congr grows unmoved]
    exact offers.given
  · -- The handle that is put back is that of the value, and the child is another one.
    have other : handle.target.subject ≠ .value child.id := by
      rw [target]
      exact fun same => Replay.child_id_ne located.reports offers.recorded
        (Subject.value.inj same).symm
    have left := serve_of_handle found value window
    have known : (session.serve slot value window).2.known = session.known := by
      rw [left, session.classify_of_known value located.classified.1]
    have registry : (session.serve slot value window).2.registry = session.registry := by
      rw [left]
      rfl
    have arenas : ∀ classification summary,
        ((session.serve slot value window).2.arena.describe child classification summary).1 =
          (session.arena.describe child classification summary).1 := by
      rw [left]
      exact Arena.describe_setHandle located.attested.formed found (Handle.enumerate_frame ..).1
        other
    exact (describe_congr located.pure unmoved registry known arenas).trans offers.named

end Offers

/-- A window of one position is served with the child that is offered for it. -/
theorem Offers.serve_single
    (offers : session.Offers frame path value shown (.position index) child named)
    (addressable : session.replay.Addressable) (nonzero : shown.reference ≠ 0) :
    ∃ slot handle, session.target? shown.reference = some (slot, .value value) ∧
      session.arena.handle? slot = some handle ∧ handle.target = .value value ∧
      (session.serve slot value ⟨index, some 1⟩).1 = [.child child] := by
  -- The reference leads to the value, whose window is served as if nothing were remembered.
  have located := offers.located
  obtain ⟨known, due⟩ := located.classified
  obtain ⟨node, has⟩ := located.reports
  -- A recorded position lies below the number of children, and that can be addressed.
  have below : index < maxPosition :=
    Nat.lt_of_lt_of_le (Replay.child_recorded has offers.recorded).1 (addressable.length_le has.1)
  obtain ⟨slot, handle, leads, found, target⟩ :=
    located.attested.leads ⟨node, has⟩ located.granted nonzero
  refine ⟨slot, handle, leads, found, target, ?_⟩
  rw [located.attested.serve_uncached found target]
  exact ChildAnswers.uncached_single below
    (fun count sized => due.lt_of_indexed has sized offers.given) _
    ((located.answers index).trans offers.given)

/-- A window of one position lists the child that is offered for it. -/
theorem Offers.listVariables
    (offers : session.Offers frame path value shown (.position index) child named)
    (addressable : session.replay.Addressable) (nonzero : shown.reference ≠ 0) :
    (session.listVariables shown.reference ⟨index, some 1⟩).1 = ⟨[named], none⟩ ∧
      (session.listVariables shown.reference ⟨index, some 1⟩).2.Offers frame path value shown
        (.position index) child named := by
  -- The one outcome is presented by the descriptor that the child has after serving as before.
  obtain ⟨slot, handle, leads, found, target, outcomes⟩ := offers.serve_single addressable nonzero
  have after := offers.served found target ⟨index, some 1⟩
  rw [listVariables_of_target leads]
  simp only [expand, outcomes, present]
  exact ⟨by rw [after.named]; rfl, after.described⟩

/-- What is presented as one descriptor without a failure is one child. -/
theorem child_of_presented {outcomes : List ChildOutcome}
    (presented : (session.present outcomes).1 = [named])
    (unfailed : failureNote value outcomes = none) : ∃ child, outcomes = [.child child] := by
  -- Two outcomes give two descriptors, and one that has failed leaves a note.
  rcases outcomes with _ | ⟨⟨child⟩ | ⟨failed, error⟩, _ | ⟨⟨next⟩ | ⟨also, reason⟩, rest⟩⟩ <;>
    simp [present, failureNote, isFailure] at presented unfailed ⊢

/-- What a window of one position lists without a failure is offered for the position. -/
theorem Located.offers_of_listed (located : session.Located frame path value shown)
    (addressable : session.replay.Addressable) (nonzero : shown.reference ≠ 0)
    (listed : (session.listVariables shown.reference ⟨index, some 1⟩).1 = ⟨[named], none⟩) :
    ∃ child, session.Offers frame path value shown (.position index) child named := by
  -- What is listed has been served, and what is served was answered for a position of the window.
  obtain ⟨slot, handle, leads, found, target⟩ :=
    located.attested.leads located.reports located.granted nonzero
  have expanded := listed
  rw [listVariables_of_target leads] at expanded
  obtain ⟨child, outcomes⟩ : ∃ child,
      (session.serve slot value ⟨index, some 1⟩).1 = [.child child] :=
    child_of_presented (congrArg VariablesAnswer.descriptors expanded)
      (congrArg VariablesAnswer.diagnostic expanded)
  rw [located.attested.serve_uncached found target] at outcomes
  have member : child ∈ childrenOf ((session.answersOf value (session.classify value).1).uncached
      (session.classify value).1.kind ⟨index, some 1⟩ session.options.maxNamed) := by
    rw [outcomes]
    exact List.mem_singleton_self _
  -- The window covers a single position, so the child was answered for this one.
  obtain ⟨other, covered, given⟩ := ChildAnswers.mem_childrenOf_uncached member
  rw [Window.eq_of_mem_single covered, located.answers] at given
  have offers : session.Offers frame path value shown (.position index) child
    (session.describe child).1 := ⟨located, given, rfl⟩
  -- The child is then listed by its own descriptor, which has to be the one that was seen.
  rw [(offers.listVariables addressable nonzero).1] at listed
  cases listed
  exact ⟨child, offers⟩

/-- Evaluating an expression leaves the program where it is. -/
theorem evaluate_replay (session : Session) (frame : Nat) (expression : String) :
    (session.evaluate frame expression).2.replay = session.replay := by
  have kept := (session.respond_quiet (.evaluate frame expression) rfl).1
  simpa only [respond] using kept

/-- What is evaluated among declared formatters is located, and its children can be addressed. -/
theorem located_after (replay : Replay) {registry : Registry}
    (declared : registry.All Formatter.IsDeclared) (addressable : replay.Addressable)
    (options : SessionOptions) {requests : List (Request Int64)}
    (attended : (start replay registry options).Attended requests) {expression : String}
    (trimmed : Text.trim expression = expression) {there : Session}
    (evaluates : ((start replay registry options).after requests).evaluate frame expression =
      (.ok (.value shown), there)) :
    ∃ path value, path.SpelledBy expression ∧ there.Located frame path value shown ∧
      there.replay.Addressable := by
  -- Declared formatters are steady and pure, so whatever the session has learned can be relied on.
  obtain ⟨path, value, spelled, located⟩ := located_of_evaluate
    (after_attested (fun _ declared => declared.steady replay.stops) declared attended)
    (after_pure replay (fun entry member => (declared entry member).pure) options requests)
    evaluates
  rw [trimmed] at spelled
  -- Neither the requests nor the evaluation have changed what is recorded.
  have still := ((start replay registry options).after requests).evaluate_replay frame expression
  rw [evaluates] at still
  refine ⟨path, value, spelled, located, ?_⟩
  rw [still]
  exact addressable.of_stops ((start replay registry options).after_program requests).1

namespace CutPair

/-! A pair of two members, of which a declared formatter announces one. -/

/-- The formatter that announces a single child. -/
def declaration : Declaration := ⟨"cut", "Pair", false, false, true, some 1, none⟩

/-- The formatters of the session. -/
def registry : Registry := ⟨[⟨"cut", .exact "Pair", declaration.formatter⟩]⟩

/-- The one stop at which the pair is the only local variable. -/
def replay : Replay :=
  ⟨[⟨.breakpoint, [⟨"main", [⟨"p", "Pair", "\x7b..\x7d", .record,
    [⟨"first", "int", "1", .scalar, []⟩, ⟨"second", "int", "2", .scalar, []⟩]⟩]⟩]⟩], 0⟩

/-- What is shown of the pair. -/
def descriptor : Descriptor := ⟨"p", "\x7b..\x7d", "Pair", 0x100001, none, none⟩

/-- The session that has been asked for the pair. -/
def there : Session := ((start replay registry ⟨.unbounded, 100⟩).evaluatePath 0 ⟨"p", []⟩).2

/-- The one formatter is a declared one. -/
theorem declared : registry.All Formatter.IsDeclared := by
  intro entry member
  rw [List.mem_singleton.mp member]
  exact ⟨declaration, rfl⟩

/-- Of the three values that are recorded the pair alone has children. -/
theorem addressable : replay.Addressable := by
  -- The pair has two children, and these have none.
  intro stop member id node found
  rw [List.mem_singleton.mp member] at found
  refine (RecordedStop.find?_invariant (fun node => node.offspring.length ≤ 2 ∧
    ∀ child ∈ node.offspring, child.offspring = []) (by decide) ?_ found).1.trans (by decide)
  intro above few child among
  have flat := few.2 child among
  rw [flat]
  exact ⟨Nat.zero_le 2, List.forall_mem_nil _⟩

/-- The name of the pair has no blank at its ends. -/
theorem trimmed : Text.trim "p" = "p" := by decide

/-- The name of the pair spells a path without keys. -/
theorem spelled : Path.SpelledBy ⟨"p", []⟩ "p" :=
  ⟨by decide, [], by decide, .nil⟩

/-- The name of the pair is read as this path. -/
theorem parsed : Path.parse? "p" = some ⟨"p", []⟩ := Path.parse?_eq_some_iff.mpr spelled

/-- The pair is evaluated with a reference of its own. -/
theorem evaluates :
    ((start replay registry ⟨.unbounded, 100⟩).after []).evaluate 0 "p" =
      (.ok (.value descriptor), there) := by
  refine (evaluate_of_parsed _ 0 (by decide) (trimmed.symm ▸ parsed)).trans (Prod.ext ?_ rfl)
  decide +kernel

end CutPair

/--
Expanding a value in one position agrees with evaluating the path that goes on by this position.

A window of one position lists a child without a failure exactly if the longer path is evaluated.
Then both show the same descriptor, in every field, and whichever is asked first, the other still
does afterwards.
-/
theorem position_agrees (replay : Replay) {registry : Registry}
    (declared : registry.All Formatter.IsDeclared) (addressable : replay.Addressable)
    (options : SessionOptions) {requests : List (Request Int64)}
    (attended : (start replay registry options).Attended requests) {frame : Nat}
    {expression : String} (trimmed : Text.trim expression = expression) {shown : Descriptor}
    {there : Session}
    (evaluates : ((start replay registry options).after requests).evaluate frame expression =
      (.ok (.value shown), there))
    (expandable : shown.reference ≠ 0) {index : Nat} (fits : index ≤ maxPosition) :
    let further := expression ++ "[" ++ toString index ++ "]"
    let listed := there.listVariables shown.reference ⟨index, some 1⟩
    let evaluated := there.evaluate frame further
    ((∃ named, listed.1 = ⟨[named], none⟩) ↔ ∃ answer, evaluated.1 = .ok answer) ∧
      ∀ named, listed.1 = ⟨[named], none⟩ →
        evaluated.1 = .ok (.value named) ∧
          (listed.2.evaluate frame further).1 = .ok (.value named) ∧
          (evaluated.2.listVariables shown.reference ⟨index, some 1⟩).1 = ⟨[named], none⟩ := by
  intro further listed evaluated
  obtain ⟨path, value, spelled, located, thereAddressable⟩ :=
    located_after replay declared addressable options attended trimmed evaluates
  have longer : further = expression ++ (ChildKey.position index).segment := by
    simp only [further, ChildKey.segment, ChildKey.text, String.append_assoc]
  have writable : (ChildKey.position index).IsWritable := fits
  simp only [evaluated, listed, longer]
  refine ⟨⟨?_, ?_⟩, ?_⟩
  · -- What is listed is offered for the position, so the walk finds it as well.
    rintro ⟨named, shows⟩
    obtain ⟨child, offers⟩ := located.offers_of_listed thereAddressable expandable shows
    exact ⟨_, (offers.evaluate trimmed spelled writable).1⟩
  · -- What the walk finds is offered for the position, so the window lists it.
    rintro ⟨answer, shows⟩
    obtain ⟨child, named, offers, _⟩ := located.offers_of_evaluate trimmed spelled writable shows
    exact ⟨named, (offers.listVariables thereAddressable expandable).1⟩
  · intro named shows
    obtain ⟨child, offers⟩ := located.offers_of_listed thereAddressable expandable shows
    -- What is offered is still offered after either request, and so the other one shows it.
    obtain ⟨_, afterListing⟩ := offers.listVariables thereAddressable expandable
    obtain ⟨same, afterEvaluation⟩ := offers.evaluate trimmed spelled writable
    have alsoAddressable : (there.evaluate frame
        (expression ++ (ChildKey.position index).segment)).2.replay.Addressable := by
      rw [evaluate_replay]
      exact thereAddressable
    exact ⟨same, (afterListing.evaluate trimmed spelled writable).1,
      (afterEvaluation.listVariables alsoAddressable expandable).1⟩

/-- Of a pair that is cut to its first member the first one is listed and evaluated alike. -/
theorem position_agrees_of_cut :
    CutPair.registry.All Formatter.IsDeclared ∧ CutPair.replay.Addressable ∧
      (start CutPair.replay CutPair.registry ⟨.unbounded, 100⟩).Attended [] ∧
      Text.trim "p" = "p" ∧
      ((start CutPair.replay CutPair.registry ⟨.unbounded, 100⟩).after []).evaluate 0 "p" =
        (.ok (.value CutPair.descriptor), CutPair.there) ∧
      CutPair.descriptor.reference ≠ 0 ∧
      (CutPair.there.evaluate 0 "p[0]").1 = .ok (.value ⟨"first", "1", "int", 0, none, none⟩) ∧
      ¬ ∃ answer, (CutPair.there.evaluate 0 "p[1]").1 = .ok answer := by
  have attended : (start CutPair.replay CutPair.registry ⟨.unbounded, 100⟩).Attended [] := trivial
  have expandable : CutPair.descriptor.reference ≠ 0 := by decide
  have first : (CutPair.there.listVariables CutPair.descriptor.reference ⟨0, some 1⟩).1 =
      ⟨[⟨"first", "1", "int", 0, none, none⟩], none⟩ := by decide +kernel
  have second : (CutPair.there.listVariables CutPair.descriptor.reference ⟨1, some 1⟩).1 =
      ⟨[], none⟩ := by decide +kernel
  have zero : 0 ≤ maxPosition := by decide
  have one : 1 ≤ maxPosition := by decide
  have agrees := position_agrees CutPair.replay CutPair.declared CutPair.addressable
    ⟨.unbounded, 100⟩ attended CutPair.trimmed CutPair.evaluates expandable zero
  have alsoAgrees := position_agrees CutPair.replay CutPair.declared CutPair.addressable
    ⟨.unbounded, 100⟩ attended CutPair.trimmed CutPair.evaluates expandable one
  refine ⟨CutPair.declared, CutPair.addressable, attended, CutPair.trimmed, CutPair.evaluates,
    expandable, (agrees.2 _ first).1, fun given => ?_⟩
  -- The second position is past the announced size, so that nothing is listed for it.
  obtain ⟨named, listed⟩ := alsoAgrees.1.mpr given
  rw [second] at listed
  cases listed

end Session

end Inspection
