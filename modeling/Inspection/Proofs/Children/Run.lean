import Inspection.Proofs.Children.Enumeration

/-! One equation says how a run of positions is served, whether or not a size is known. -/

namespace Inspection

/-- The first position of a window among children of a kind, and how many follow from there. -/
def Window.run (window : Window) (kind : ChildrenKind) (maxNamed : Nat) : Nat × Nat :=
  match kind with
  | .indexed count => ((window.range count).1, (window.range count).2 - (window.range count).1)
  | .named | .undeclared =>
    (window.start, addPosition window.start (window.count.getD maxNamed) - window.start)

/-- The positions that a window covers are those of its run. -/
theorem Window.positions_eq_run (window : Window) (kind : ChildrenKind) (maxNamed : Nat) :
    window.positions kind maxNamed =
      List.range' (window.run kind maxNamed).1 (window.run kind maxNamed).2 := by
  -- Without a size this is the run that stops with the words.
  cases kind with
  | indexed count => rfl
  | named | undeclared =>
    exact window.positions_of_unsized maxNamed fun count sized => by cases sized

/-- What an answer shows in its position; without a size, no child shows nothing and is the end. -/
def ChildrenKind.outcome? (kind : ChildrenKind) (index : Nat) :
    Except FormatterError (Option Value) → Option ChildOutcome
  | .ok (some child) => some (.child child)
  | .error error => some (.failed index error)
  | .ok none =>
    match kind with
    | .indexed count => some (.failed index (Handle.missingChild count index))
    | .named | .undeclared => none

/-- An answer shows nothing exactly where there is neither a child nor a size that promises one. -/
theorem ChildrenKind.outcome?_eq_none_iff {kind : ChildrenKind} {index : Nat}
    {answer : Except FormatterError (Option Value)} :
    kind.outcome? index answer = none ↔ (∀ count, kind ≠ .indexed count) ∧ answer = .ok none := by
  -- A size turns a missing child into a failure, which is shown.
  rcases answer with error | _ | child <;> cases kind <;> simp [outcome?]

namespace Handle

/-- A handle that has been enumerated keeps its kind. -/
theorem markClassified_recordWindow (handle : Handle) (kind other : ChildrenKind) :
    (handle.recordWindow kind).markClassified other = handle.recordWindow kind := rfl

/-- What is recorded of a window does not depend on what was recorded before. -/
theorem recordWindow_ofState (handle : Handle) (state : HandleState) (kind : ChildrenKind) :
    recordWindow { handle with state } kind = handle.recordWindow kind := by
  -- Recording sets the state anew.
  cases kind <;> rfl

/-- Whether serving stops before a position; a known size has cut the run already. -/
def stopsAt (handle : Handle) (kind : ChildrenKind) (index : Nat) : Bool :=
  match kind with
  | .indexed _ => false
  | .named | .undeclared => handle.isPastEnd index

section

variable (inquiry : Inquiry) (provider : Provider) (value : Value)

/-- Serves a run of positions in the way of a kind. -/
def serveRun (kind : ChildrenKind) (remaining index : Nat) (handle : Handle) (ledger : Ledger) :
    Enumerated (List ChildOutcome) :=
  match kind with
  | .indexed count => serveIndexed inquiry provider value count remaining index handle ledger
  | .named | .undeclared => serveNamed inquiry provider value remaining index handle ledger

variable {inquiry provider value} {kind : ChildrenKind} {index : Nat} {handle : Handle}
  {ledger : Ledger}

/-- A window of a value's children is a run that is served and then recorded. -/
theorem enumerate_of_value (target : handle.target = .value value) (kind : ChildrenKind)
    (window : Window) (maxNamed : Nat) (ledger : Ledger) :
    handle.enumerate kind provider window maxNamed inquiry ledger =
      let served := serveRun inquiry provider value kind (window.run kind maxNamed).2
        (window.run kind maxNamed).1 (handle.markClassified kind) ledger
      ⟨served.answer, served.handle.recordWindow kind, served.ledger⟩ := by
  -- Either kind of window is served over the positions of its run.
  simp only [enumerate, target]
  cases kind <;> rfl

/-- An empty run serves nothing. -/
theorem serveRun_zero : serveRun inquiry provider value kind 0 index handle ledger =
    ⟨[], handle, ledger⟩ := by
  -- No position is left to be asked for.
  cases kind <;> rfl

/-- A run that stops before its first position serves nothing. -/
theorem serveRun_of_stops (stops : handle.stopsAt kind index = true) (remaining : Nat) :
    serveRun inquiry provider value kind remaining index handle ledger = ⟨[], handle, ledger⟩ := by
  -- With a size nothing stops a run, and without one the end is looked at first.
  cases kind with
  | indexed count => cases stops
  | named | undeclared =>
    have past : handle.isPastEnd index = true := stops
    cases remaining with
    | zero => rfl
    | succ further => simp only [serveRun, serveNamed, past, if_true]

/-- A run whose first position shows nothing ends there, and the handle keeps the end. -/
theorem serveRun_of_end (onward : handle.stopsAt kind index = false)
    (ended : kind.outcome? index (handle.fetch inquiry provider value index ledger).answer = none)
    (further : Nat) :
    serveRun inquiry provider value kind (further + 1) index handle ledger =
      let step := handle.fetch inquiry provider value index ledger
      ⟨[], { step.handle with namedEnd := some index }, step.ledger⟩ := by
  -- Only without a size does an answer show nothing, and that is an answer without a child.
  cases kind with
  | indexed count =>
    rcases answer : (handle.fetch inquiry provider value index ledger).answer with
      error | _ | child <;> simp [answer, ChildrenKind.outcome?] at ended
  | named | undeclared =>
    have ahead : handle.isPastEnd index = false := onward
    rcases answer : (handle.fetch inquiry provider value index ledger).answer with
      error | _ | child <;> simp [answer, ChildrenKind.outcome?] at ended
    simp [serveRun, serveNamed, ahead, answer]

/-- A run whose first position shows an outcome goes on with the next. -/
theorem serveRun_of_outcome (onward : handle.stopsAt kind index = false) {outcome : ChildOutcome}
    (shown : kind.outcome? index (handle.fetch inquiry provider value index ledger).answer =
      some outcome) (further : Nat) :
    serveRun inquiry provider value kind (further + 1) index handle ledger =
      let rest := serveRun inquiry provider value kind further (index + 1)
        (handle.fetch inquiry provider value index ledger).handle
        (handle.fetch inquiry provider value index ledger).ledger
      ⟨outcome :: rest.answer, rest.handle, rest.ledger⟩ := by
  -- With a size every answer is an outcome; without one the answers differ as serving does.
  cases kind with
  | indexed count =>
    rcases answer : (handle.fetch inquiry provider value index ledger).answer with
      error | _ | child <;> simp [answer, ChildrenKind.outcome?] at shown <;>
      simp [serveRun, serveIndexed, answer, shown]
  | named | undeclared =>
    have ahead : handle.isPastEnd index = false := onward
    rcases answer : (handle.fetch inquiry provider value index ledger).answer with
      error | _ | child <;> simp [answer, ChildrenKind.outcome?] at shown <;>
      simp [serveRun, serveNamed, ahead, answer, shown]

variable (inquiry provider value kind) in
/-- What holds of empty runs, of those that stop or end at once, and on from an outcome, holds. -/
theorem serveRun_induct {motive : Nat → Nat → Handle → Ledger → Prop}
    (zero : ∀ index handle ledger, motive 0 index handle ledger)
    (stopped : ∀ further index handle ledger, handle.stopsAt kind index = true →
      motive (further + 1) index handle ledger)
    (ended : ∀ further index handle ledger, handle.stopsAt kind index = false →
      kind.outcome? index (handle.fetch inquiry provider value index ledger).answer = none →
      motive (further + 1) index handle ledger)
    (outcome : ∀ further index handle ledger outcome, handle.stopsAt kind index = false →
      kind.outcome? index (handle.fetch inquiry provider value index ledger).answer =
        some outcome →
      motive further (index + 1) (handle.fetch inquiry provider value index ledger).handle
        (handle.fetch inquiry provider value index ledger).ledger →
      motive (further + 1) index handle ledger)
    (remaining index : Nat) (handle : Handle) (ledger : Ledger) :
    motive remaining index handle ledger := by
  -- The induction is on the positions left, from the handle that the first fetch leaves.
  induction remaining generalizing index handle ledger with
  | zero => exact zero index handle ledger
  | succ further ih =>
    cases stops : handle.stopsAt kind index with
    | true => exact stopped further index handle ledger stops
    | false =>
      cases shown : kind.outcome? index
        (handle.fetch inquiry provider value index ledger).answer with
      | none => exact ended further index handle ledger stops shown
      | some first => exact outcome further index handle ledger first stops shown (ih ..)

/-- Serving stops before a position exactly where an end without a size is remembered before it. -/
theorem stopsAt_iff : handle.stopsAt kind index = true ↔
    (∀ count, kind ≠ .indexed count) ∧ ∃ bound ≤ index, handle.namedEnd = some bound := by
  -- A size is announced, so that no end needs to be found.
  cases kind with
  | indexed count => simp [stopsAt]
  | named | undeclared => cases ended : handle.namedEnd <;> simp [stopsAt, isPastEnd, ended]

/-- Where serving stops before a position it stops before every later one. -/
theorem stopsAt_mono (stops : handle.stopsAt kind index = true) {later : Nat}
    (behind : index ≤ later) : handle.stopsAt kind later = true := by
  -- The remembered end lies before both positions.
  obtain ⟨unsized, bound, before, ended⟩ := stopsAt_iff.mp stops
  exact stopsAt_iff.mpr ⟨unsized, bound, Nat.le_trans before behind, ended⟩

/-- Only the remembered end of a handle decides where serving stops. -/
theorem stopsAt_congr {other : Handle} (same : other.namedEnd = handle.namedEnd)
    (kind : ChildrenKind) (index : Nat) : other.stopsAt kind index = handle.stopsAt kind index := by
  -- With a size nothing of the handle is looked at, and without one the end alone.
  cases kind <;> simp only [stopsAt, isPastEnd, same]

/-- Fetching a child moves no end. -/
@[simp] theorem fetch_namedEnd (handle : Handle) (index : Nat) (ledger : Ledger) :
    (handle.fetch inquiry provider value index ledger).handle.namedEnd = handle.namedEnd := by
  -- What a fetch learns is a child at most.
  cases found : handle.child? index with
  | some child => rw [fetch_of_remembered inquiry provider value ledger found]
  | none =>
    rw [fetch_of_unknown inquiry provider value ledger found]
    exact learn_namedEnd ..

/-- After a fetch a child is remembered in its position exactly if that is the answer. -/
theorem child?_fetch_self {child : Value} :
    (handle.fetch inquiry provider value index ledger).handle.child? index = some child ↔
      (handle.fetch inquiry provider value index ledger).answer = .ok (some child) := by
  cases found : handle.child? index with
  | some known =>
    -- A remembered child is itself the answer.
    rw [fetch_of_remembered inquiry provider value ledger found, found]
    simp
  | none =>
    -- Of the answers to a request only a child is learned.
    rw [fetch_of_unknown inquiry provider value ledger found]
    rcases (inquiry.child provider value (.position index) ledger).1 with error | _ | given <;>
      simp [learn, child?_remember, found]

/-- A fetch leaves every position but its own alone. -/
theorem child?_fetch_of_ne {other : Nat} (different : other ≠ index) :
    (handle.fetch inquiry provider value index ledger).handle.child? other =
      handle.child? other := by
  -- A fetch learns the child in its own position, if any.
  cases found : handle.child? index with
  | some known => rw [fetch_of_remembered inquiry provider value ledger found]
  | none =>
    rw [fetch_of_unknown inquiry provider value ledger found]
    rcases (inquiry.child provider value (.position index) ledger).1 with error | _ | given
    · rfl
    · rfl
    · simp only [learn, child?_remember, if_neg different]

/-- Where an answer shows nothing, the end that is marked there stops serving from then on. -/
theorem stopsAt_markEnd {answer : Except FormatterError (Option Value)}
    (ended : kind.outcome? index answer = none) (handle : Handle) :
    { handle with namedEnd := some index }.stopsAt kind index = true :=
  stopsAt_iff.mpr ⟨(ChildrenKind.outcome?_eq_none_iff.mp ended).1, index, Nat.le_refl index, rfl⟩

end

end Handle

end Inspection
