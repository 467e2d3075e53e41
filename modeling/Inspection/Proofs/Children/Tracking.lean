import Inspection.Proofs.Children.Calls
import Inspection.Proofs.Children.Coverage

/-! A handle keeps track of how children are reached and of those that its stop was given. -/

namespace Inspection

/-- A provider gave a child for a position, in a call that was made after some others. -/
def Provider.Gave (provider : Provider) (stops : List RecordedStop) (budget : CallBudget)
    (before : List Call) (value : Value) (index : Nat) (child : Value) (history : List Call) :
    Prop :=
  ∃ cursor later earlier,
    let call := Inquiry.childCall ⟨⟨stops, cursor⟩, budget⟩ provider value (.position index) earlier
    -- Histories have their newest call in front.
    history = later ++ call :: earlier ∧ before <:+ earlier ∧
      call = .child provider.source value (.position index) (.ok (some child))

namespace Provider.Gave

variable {provider : Provider} {stops : List RecordedStop} {budget : CallBudget}
  {before history : List Call} {value child : Value} {index : Nat}

/-- What was given once stays given whatever calls are made. -/
theorem mono (gave : provider.Gave stops budget before value index child history)
    {more : List Call} (grown : history <:+ more) :
    provider.Gave stops budget before value index child more := by
  -- The history has grown in front only.
  obtain ⟨added, rfl⟩ := grown
  obtain ⟨cursor, later, earlier, rfl, since, answered⟩ := gave
  exact ⟨cursor, added ++ later, earlier, (List.append_assoc ..).symm, since, answered⟩

/-- A provider gives the child that it answers when it is asked. -/
theorem of_child {inquiry : Inquiry} {ledger : Ledger} (since : before <:+ ledger.history)
    (answered : (inquiry.child provider value (.position index) ledger).1 = .ok (some child)) :
    provider.Gave inquiry.replay.stops inquiry.budget before value index child
      (inquiry.child provider value (.position index) ledger).2.history := by
  -- The call that was made is the newest of all.
  refine ⟨inquiry.replay.cursor, [], ledger.history, ?_, since, congrArg _ answered⟩
  exact inquiry.history_child provider value ledger (.position index)

end Provider.Gave

/-- Where the number of children is known the run of a window does not go beyond it. -/
theorem Window.run_le (window : Window) (count maxNamed : Nat) :
    (window.run (.indexed count) maxNamed).1 + (window.run (.indexed count) maxNamed).2 ≤
      count := by
  -- A range ends within the size before it is cut into a run.
  simp only [run, range]
  split <;> omega

namespace Handle

section fetching

variable {inquiry : Inquiry} {provider : Provider} {value : Value} {before : List Call}

/-- What two properties maintain they maintain together. -/
theorem Maintained.and {Holds Also : Handle → Ledger → Prop}
    (one : Maintained inquiry provider value Holds)
    (other : Maintained inquiry provider value Also) :
    Maintained inquiry provider value fun handle ledger =>
      Holds handle ledger ∧ Also handle ledger where
  fetch index handle ledger both :=
    ⟨one.fetch index handle ledger both.1, other.fetch index handle ledger both.2⟩
  ended index handle ledger both past :=
    ⟨one.ended index handle ledger both.1 past, other.ended index handle ledger both.2 past⟩

/-- Every child that a handle remembers was given in a call that was made after some others. -/
structure Witnessed (inquiry : Inquiry) (provider : Provider) (value : Value) (before : List Call)
    (handle : Handle) (ledger : Ledger) : Prop where
  since : before <:+ ledger.history
  given : ∀ index child, handle.child? index = some child →
    provider.Gave inquiry.replay.stops inquiry.budget before value index child ledger.history

/-- A child that is fetched has been given, or else it was remembered before. -/
theorem Witnessed.fetch {handle : Handle} {ledger : Ledger}
    (witnessed : Witnessed inquiry provider value before handle ledger) (position : Nat) :
    Witnessed inquiry provider value before
      (handle.fetch inquiry provider value position ledger).handle
      (handle.fetch inquiry provider value position ledger).ledger := by
  cases found : handle.child? position with
  | some child =>
    rw [fetch_of_remembered inquiry provider value ledger found]
    exact witnessed
  | none =>
    -- The call is entered in front of the calls that were made before.
    have entered := inquiry.history_child provider value ledger (.position position)
    have grown : ledger.history <:+
        (inquiry.child provider value (.position position) ledger).2.history :=
      entered ▸ List.suffix_cons ..
    rw [fetch_of_unknown inquiry provider value ledger found]
    refine ⟨witnessed.since.trans grown, fun index child known => ?_⟩
    -- Only a child in the answer to the call can be new, and only at the position asked for.
    rcases answered : (inquiry.child provider value (.position position) ledger).1 with
      error | _ | answer <;> simp only [answered, learn] at known
    · exact (witnessed.given index child known).mono grown
    · exact (witnessed.given index child known).mono grown
    · rw [child?_remember] at known
      split at known
      · rename_i same
        cases known
        subst same
        exact .of_child witnessed.since answered
      · exact (witnessed.given index child known).mono grown

/-- Fetches remember only what is given. -/
theorem witnessed_maintained (inquiry : Inquiry) (provider : Provider) (value : Value)
    (before : List Call) :
    Maintained inquiry provider value (Witnessed inquiry provider value before) := by
  refine ⟨fun index handle ledger witnessed => witnessed.fetch index,
    fun index handle ledger witnessed _ => ?_⟩
  -- The end is kept beside the children.
  have kept := witnessed.fetch index
  exact ⟨kept.since, kept.given⟩

/-- Serving a run leaves every position outside it alone. -/
theorem child?_serveRun_of_outside (kind : ChildrenKind) (remaining index : Nat)
    (handle : Handle) (ledger : Ledger) {other : Nat}
    (outside : other < index ∨ index + remaining ≤ other) :
    (serveRun inquiry provider value kind remaining index handle ledger).handle.child? other =
      handle.child? other := by
  -- Each position of the run is fetched by itself, and an end is kept beside the children.
  induction remaining, index, handle, ledger using
    serveRun_induct inquiry provider value kind with
  | zero index handle ledger => rw [serveRun_zero]
  | stopped further index handle ledger stops => rw [serveRun_of_stops stops]
  | ended further index handle ledger onward ended =>
    rw [serveRun_of_end onward ended]
    exact child?_fetch_of_ne (by omega)
  | outcome further index handle ledger outcome onward shown ih =>
    rw [serveRun_of_outcome onward shown]
    exact (ih (by omega)).trans (child?_fetch_of_ne (by omega))

/-- With a known size, serving a window leaves every position beyond the size alone. -/
theorem child?_enumerate_of_beyond {handle : Handle} (target : handle.target = .value value)
    {count other : Nat} (beyond : count ≤ other) (window : Window) (maxNamed : Nat)
    (ledger : Ledger) :
    (handle.enumerate (.indexed count) provider window maxNamed inquiry ledger).handle.child?
      other = handle.child? other := by
  -- Marking the handle as classified forgets no child, and the run ends within the size.
  have within := window.run_le count maxNamed
  rw [enumerate_of_value target, ← markClassified_child? handle (.indexed count) other]
  exact child?_serveRun_of_outside _ _ _ _ ledger (.inr (Nat.le_trans within beyond))

end fetching

/-- The state of a handle tells a kind, and what it remembers has been given. -/
structure Tracks (handle : Handle) (kind : ChildrenKind) (Given : Nat → Value → Prop) : Prop where
  state : handle.state = .sizeKnown kind ∨ ∃ coverage, handle.state = .enumerated kind coverage
  tidy : handle.Tidy
  given : ∀ index child, handle.child? index = some child → Given index child
  bounded : ∀ count, kind = .indexed count → ∀ index ∈ handle.fetched, index < count

namespace Tracks

variable {handle : Handle} {kind : ChildrenKind} {Given : Nat → Value → Prop}

/-- A new handle tracks the kind that is recorded in it. -/
theorem fresh (target : HandleTarget) (kind : ChildrenKind) (Given : Nat → Value → Prop) :
    ((Handle.fresh target).markClassified kind).Tracks kind Given :=
  ⟨.inl rfl, (tidy_fresh target).markClassified kind, nofun, nofun⟩

/-- A handle goes on tracking as more is given. -/
theorem mono (tracks : handle.Tracks kind Given) {Later : Nat → Value → Prop}
    (kept : ∀ index child, Given index child → Later index child) : handle.Tracks kind Later :=
  ⟨tracks.state, tracks.tidy, fun index child known => kept index child (tracks.given _ _ known),
    tracks.bounded⟩

/-- A handle that tracks a kind has no other recorded. -/
theorem markClassified (tracks : handle.Tracks kind Given) (other : ChildrenKind) :
    handle.markClassified other = handle := by
  -- A kind is recorded where none is yet.
  apply markClassified_of_resolved
  rcases tracks.state with state | ⟨coverage, state⟩ <;> rw [state] <;> exact nofun

/-- Serving a window leaves a handle that tracks what has been given by then. -/
theorem enumerate {inquiry : Inquiry} {provider : Provider} {value : Value} {ledger : Ledger}
    {before : List Call} (target : handle.target = .value value)
    (since : before <:+ ledger.history)
    (tracks : handle.Tracks kind fun index child =>
      provider.Gave inquiry.replay.stops inquiry.budget before value index child ledger.history)
    (window : Window) (maxNamed : Nat) :
    (handle.enumerate kind provider window maxNamed inquiry ledger).handle.Tracks kind
      fun index child => provider.Gave inquiry.replay.stops inquiry.budget before value index child
        (handle.enumerate kind provider window maxNamed inquiry ledger).ledger.history := by
  -- The kind is recorded already, so serving begins with the handle as it is.
  have begins : (handle.markClassified kind).Tidy ∧
      Witnessed inquiry provider value before (handle.markClassified kind) ledger := by
    rw [tracks.markClassified kind]
    exact ⟨tracks.tidy, since, tracks.given⟩
  have kept := (tidy_maintained inquiry provider value).and
    (witnessed_maintained inquiry provider value before)
  obtain ⟨served, ⟨tidy, witnessed⟩, recorded⟩ :=
    enumerate_maintained kept target kind window maxNamed begins
  rw [recorded]
  refine ⟨.inr ⟨_, rfl⟩, ⟨tidy.distinct, tidy.keys⟩, witnessed.given, ?_⟩
  rintro count rfl index member
  -- A position beyond the size would have been fetched before.
  apply Nat.lt_of_not_le
  intro beyond
  obtain ⟨child, known⟩ := (tidy.keys index).mp member
  have same : served.child? index = handle.child? index :=
    (congrArg (child? · index) recorded).symm.trans
      (child?_enumerate_of_beyond target beyond window maxNamed ledger)
  have already := (tracks.tidy.keys index).mpr ⟨child, same ▸ known⟩
  exact Nat.not_lt_of_le beyond (tracks.bounded count rfl index already)

end Tracks

end Handle

namespace Arena

variable {arena : Arena} {value : Value} {slot : Nat} {handle : Handle}

/-- After a value has been offered a handle is an earlier one, or marked as that of the value. -/
theorem handle?_offer (formed : arena.WellFormed) (kind : ChildrenKind)
    (found : (arena.offer value kind).2.handle? slot = some handle) :
    arena.handle? slot = some handle ∨ ∃ old, handle = old.markClassified kind ∧
      (old = .fresh (.value value) ∨
        arena.handle? slot = some old ∧ old.target.subject = .value value.id) := by
  cases looked : arena.slotOf value.id with
  | some place =>
    -- The value has a handle, which is marked in its place.
    obtain ⟨old, there, subject⟩ := formed (.value value.id) place looked
    simp only [offer, slotFor, looked, there, handle?_setHandle] at found
    split at found
    · rename_i here
      subst here
      simp only [there, Option.map_some, Option.some.injEq] at found
      exact .inr ⟨old, found.symm, .inr ⟨there, subject⟩⟩
    · exact .inl found
  | none =>
    -- The new handle stands behind all the others.
    have handles := (slotFor_adds looked).handles
    have place : (arena.slotFor value).1 = arena.handles.size := by
      simp only [slotFor, looked, size]
    have there : (arena.slotFor value).2.handle? arena.handles.size =
        some (.fresh (.value value)) := by
      simp only [handle?, handles, Array.getElem?_push_size]
    simp only [offer, place, there, handle?_setHandle] at found
    split at found
    · rename_i here
      subst here
      simp only [there, Option.map_some, Option.some.injEq] at found
      exact .inr ⟨_, found.symm, .inl rfl⟩
    · rename_i elsewhere
      simp only [handle?, handles, Array.getElem?_push, if_neg (Ne.symm elsewhere)] at found
      exact .inl found

/-- After a value has been described a handle is an earlier one, or marked as that of the value. -/
theorem handle?_describe (formed : arena.WellFormed) {classification : Classification}
    {summary : Option String}
    (found : (arena.describe value classification summary).2.handle? slot = some handle) :
    arena.handle? slot = some handle ∨ ∃ old, handle = old.markClassified classification.kind ∧
      (old = .fresh (.value value) ∨
        arena.handle? slot = some old ∧ old.target.subject = .value value.id) := by
  -- Only a value that can be expanded is offered.
  simp only [describe] at found
  split at found
  · exact handle?_offer formed _ found
  · exact .inl found

end Arena

end Inspection
