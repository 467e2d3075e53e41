import Inspection.Proofs.Children.Arena
import Inspection.Proofs.Children.Enumeration
import Inspection.Proofs.Formatter.Demand
import Mathlib.Data.List.Forall2

/-! Serving a window asks for children in it that are not remembered, each once and in order. -/

namespace Inspection

/-- A request to a provider for the child of a value by a key, with the answer it would give. -/
def Inquiry.Requests (inquiry : Inquiry) (provider : Provider) (value : Value) (key : ChildKey)
    (call : Call) : Prop :=
  ∃ ledger, call = .child provider.source value key (inquiry.child provider value key ledger).1

/-- Requests for the children in some positions have those positions for keys. -/
theorem Inquiry.requests_keys {inquiry : Inquiry} {provider : Provider} {value : Value}
    {indexes : List Nat} {calls : List Call}
    (matched : List.Forall₂
      (fun index call => inquiry.Requests provider value (.position index) call) indexes calls) :
    calls.map Call.key? = indexes.map fun index => some (.position index) := by
  -- Each request is matched with its own position.
  induction matched with
  | nil => rfl
  | cons requests _ ih =>
    obtain ⟨ledger, same⟩ := requests
    rw [List.map_cons, List.map_cons, ih, same]
    rfl

/-- Requests for children tell in which positions these are. -/
theorem Inquiry.requests_unique {inquiry : Inquiry} {provider : Provider} {value : Value}
    {indexes others : List Nat} {calls : List Call}
    (matched : List.Forall₂
      (fun index call => inquiry.Requests provider value (.position index) call) indexes calls)
    (also : List.Forall₂
      (fun index call => inquiry.Requests provider value (.position index) call) others calls) :
    indexes = others := by
  -- The positions can be read off the keys.
  have keys := requests_keys matched
  rw [requests_keys also] at keys
  refine ((List.map_inj_right fun one other same => ?_).mp keys).symm
  exact ChildKey.position.inj (Option.some.inj same)

namespace Handle

variable {inquiry : Inquiry} {provider : Provider} {value : Value} {handle : Handle}

/-- Some of the positions were asked for, each once and in order, and none that was remembered. -/
def Demands (inquiry : Inquiry) (provider : Provider) (value : Value) (handle : Handle)
    (positions : List Nat) (asked : List Call) : Prop :=
  ∃ indexes, indexes.Sublist positions ∧ (∀ index ∈ indexes, handle.child? index = none) ∧
    List.Forall₂ (fun index call => inquiry.Requests provider value (.position index) call) indexes
      asked

/-- Of any positions it is possible that none was asked for. -/
theorem demands_nothing (handle : Handle) (positions : List Nat) :
    handle.Demands inquiry provider value positions [] :=
  ⟨[], List.nil_sublist positions, nofun, .nil⟩

/-- What a fetch leaves unknown was unknown before it. -/
theorem child?_of_fetch {index other : Nat} {ledger : Ledger}
    (unknown : (handle.fetch inquiry provider value index ledger).handle.child? other = none) :
    handle.child? other = none := by
  -- A fetch forgets nothing.
  cases found : handle.child? index with
  | some child =>
    rw [fetch_of_remembered inquiry provider value ledger found] at unknown
    exact unknown
  | none =>
    rw [fetch_of_unknown inquiry provider value ledger found] at unknown
    exact child?_of_learn unknown

/-- A fetch asks for its own position at most, and what is asked for after it adds to that. -/
theorem fetch_demands {index : Nat} {positions : List Nat} {ledger later : Ledger}
    (rest : ∃ asked,
      (handle.fetch inquiry provider value index ledger).ledger.Asked asked later ∧
        (handle.fetch inquiry provider value index ledger).handle.Demands inquiry provider value
          positions asked) :
    ∃ asked, ledger.Asked asked later ∧
      handle.Demands inquiry provider value (index :: positions) asked := by
  -- Whatever is asked for later was unknown already, so only this position can be added.
  obtain ⟨asked, made, indexes, within, fresh, matched⟩ := rest
  have unknown : ∀ other ∈ indexes, handle.child? other = none :=
    fun other member => child?_of_fetch (fresh other member)
  cases found : handle.child? index with
  | some child =>
    -- A remembered child is not asked for.
    rw [fetch_of_remembered inquiry provider value ledger found] at made
    exact ⟨asked, made, indexes, within.cons index, unknown, matched⟩
  | none =>
    -- A child that is unknown is asked for first of all.
    rw [fetch_of_unknown inquiry provider value ledger found] at made
    refine ⟨_, (inquiry.child_asked provider value ledger (.position index)).trans made,
      index :: indexes, within.cons_cons index, ?_, .cons ⟨ledger, rfl⟩ matched⟩
    exact List.forall_mem_cons.mpr ⟨found, unknown⟩

/-- Serving by position asks for positions of its run. -/
theorem serveIndexed_demands (count remaining index : Nat) (handle : Handle) (ledger : Ledger) :
    ∃ asked, ledger.Asked asked
        (serveIndexed inquiry provider value count remaining index handle ledger).ledger ∧
      handle.Demands inquiry provider value (List.range' index remaining) asked := by
  -- The induction is on the positions left, from what the first fetch leaves.
  induction remaining generalizing index handle ledger with
  | zero => exact ⟨[], .nothing ledger, demands_nothing handle _⟩
  | succ further ih =>
    rw [List.range'_succ]
    exact fetch_demands (ih (index + 1) _ _)

/-- Serving by name asks for positions of its run, and for none behind an end that it finds. -/
theorem serveNamed_demands (remaining index : Nat) (handle : Handle) (ledger : Ledger) :
    ∃ asked, ledger.Asked asked
        (serveNamed inquiry provider value remaining index handle ledger).ledger ∧
      handle.Demands inquiry provider value (List.range' index remaining) asked := by
  -- The induction is on the positions left; an end leaves the rest of the run unasked.
  induction remaining generalizing index handle ledger with
  | zero => exact ⟨[], .nothing ledger, demands_nothing handle _⟩
  | succ further ih =>
    rw [List.range'_succ]
    simp only [serveNamed]
    split
    · -- Past the remembered end nothing is asked for.
      exact ⟨[], .nothing ledger, demands_nothing handle _⟩
    · apply fetch_demands
      -- An answer without a child is the end; a child or an error goes on.
      rcases (handle.fetch inquiry provider value index ledger).answer with error | _ | child
      · exact ih (index + 1) _ _
      · exact ⟨[], .nothing _, demands_nothing _ _⟩
      · exact ih (index + 1) _ _

/-- Serving a window asks only for positions that it covers and that are not remembered. -/
theorem enumerate_demands (target : handle.target = .value value) (kind : ChildrenKind)
    (window : Window) (maxNamed : Nat) (ledger : Ledger) :
    ∃ asked, ledger.Asked asked
        (handle.enumerate kind provider window maxNamed inquiry ledger).ledger ∧
      handle.Demands inquiry provider value (window.positions kind maxNamed) asked := by
  -- Recording the kind forgets no child, so what is unknown then was unknown before.
  have marked : ∀ positions asked,
      (handle.markClassified kind).Demands inquiry provider value positions asked →
        handle.Demands inquiry provider value positions asked := by
    rintro positions asked ⟨indexes, within, fresh, matched⟩
    simp only [markClassified_child?] at fresh
    exact ⟨indexes, within, fresh, matched⟩
  simp only [enumerate, target]
  cases kind with
  | indexed count =>
    obtain ⟨asked, made, demands⟩ := serveIndexed_demands count
      ((window.range count).2 - (window.range count).1) (window.range count).1
      (handle.markClassified (.indexed count)) ledger
    exact ⟨asked, made, marked _ _ demands⟩
  | named | undeclared =>
    rw [Window.positions_of_unsized window maxNamed fun count sized => by cases sized]
    obtain ⟨asked, made, demands⟩ := serveNamed_demands
      (addPosition window.start (window.count.getD maxNamed) - window.start) window.start
      (handle.markClassified _) ledger
    exact ⟨asked, made, marked _ _ demands⟩

/-- Whether children of a handle's target have been served. -/
def isEnumerated (handle : Handle) : Bool :=
  match handle.state with
  | .enumerated _ _ => true
  | .unresolved | .sizeKnown _ => false

/-- Recording a kind serves no children. -/
@[simp] theorem markClassified_isEnumerated (handle : Handle) (kind : ChildrenKind) :
    (handle.markClassified kind).isEnumerated = handle.isEnumerated := by
  -- Only an unresolved handle is changed, and it counts as enumerated neither before nor after.
  cases handle with
  | mk target state fetched children namedEnd => cases state <;> rfl

end Handle

namespace Arena

/-- What is enumerated later stood at its place before, enumerated already but at one place. -/
def EnumeratesAt (before : Arena) (place : Option Nat) (after : Arena) : Prop :=
  ∀ slot handle, after.handle? slot = some handle → handle.isEnumerated = true →
    ∃ earlier, before.handle? slot = some earlier ∧ earlier.target = handle.target ∧
      (earlier.isEnumerated = true ∨ place = some slot)

namespace EnumeratesAt

variable {before between after arena : Arena} {place : Option Nat}

/-- Where nothing changes nothing is enumerated. -/
theorem nothing (arena : Arena) : arena.EnumeratesAt none arena :=
  fun _ handle found enumerated => ⟨handle, found, rfl, .inl enumerated⟩

/-- What is enumerated first is all that is, if nothing is enumerated after it. -/
theorem trans (early : before.EnumeratesAt place between) (late : between.EnumeratesAt none after) :
    before.EnumeratesAt place after := by
  intro slot handle found enumerated
  obtain ⟨earlier, known, same, already | nowhere⟩ := late slot handle found enumerated
  · obtain ⟨first, knownFirst, sameFirst, origin⟩ := early slot earlier known already
    exact ⟨first, knownFirst, sameFirst.trans same, origin⟩
  · cases nowhere

/-- Where no handle is left none is enumerated. -/
theorem of_empty (empty : after.handles = #[]) : before.EnumeratesAt none after := by
  -- A place without a handle has nothing to be enumerated.
  intro slot handle found
  simp [handle?, empty] at found

/-- A new handle stands for a target of which nothing has been served. -/
theorem of_adds {target : HandleTarget} (adds : Adds before after (.fresh target)) :
    before.EnumeratesAt none after := by
  -- Every other handle stands where it stood.
  intro slot handle found enumerated
  simp only [handle?, adds.handles, Array.getElem?_push] at found
  split at found
  · -- The new handle itself is not enumerated.
    cases found
    cases enumerated
  · exact ⟨handle, found, rfl, .inl enumerated⟩

/-- Finding or making a value's handle enumerates nothing. -/
theorem slotFor (arena : Arena) (value : Value) :
    arena.EnumeratesAt none (arena.slotFor value).2 := by
  -- At most a fresh handle is added.
  cases found : arena.slotOf value.id with
  | some slot =>
    simp only [Arena.slotFor, found]
    exact nothing arena
  | none => exact of_adds (slotFor_adds found)

/-- Finding or making a frame's handle enumerates nothing. -/
theorem slotForLocals (arena : Arena) (frame : Nat) :
    arena.EnumeratesAt none (arena.slotForLocals frame).2 := by
  -- At most a fresh handle is added.
  cases found : arena.byFrame.lookup frame with
  | some slot =>
    simp only [Arena.slotForLocals, found]
    exact nothing arena
  | none => exact of_adds (slotForLocals_adds found)

/-- Replacing a handle under its target enumerates nothing but what the new one shows. -/
theorem setHandle {slot : Nat} {old new : Handle} (found : arena.handle? slot = some old)
    (same : new.target = old.target)
    (origin : new.isEnumerated = true → old.isEnumerated = true ∨ place = some slot) :
    arena.EnumeratesAt place (arena.setHandle slot new) := by
  -- Only the handle at the place itself is another one.
  intro other later foundLater enumerated
  rw [handle?_setHandle] at foundLater
  split at foundLater
  · rename_i here
    subst here
    rw [found] at foundLater
    cases foundLater
    exact ⟨old, found, same.symm, origin enumerated⟩
  · exact ⟨later, foundLater, rfl, .inl enumerated⟩

/-- Describing a value enumerates nothing. -/
theorem describe (arena : Arena) (value : Value) (classification : Classification)
    (summary : Option String) :
    arena.EnumeratesAt none (arena.describe value classification summary).2 := by
  -- A value that cannot be expanded leaves the arena alone.
  simp only [Arena.describe]
  split
  · -- The handle that is offered is found or made and then marked.
    simp only [offer]
    split
    · rename_i handle found
      refine (slotFor arena value).trans (setHandle found (Handle.markClassified_target _ _) ?_)
      -- Marking shows nothing that was not shown before.
      intro shown
      rw [Handle.markClassified_isEnumerated] at shown
      exact .inl shown
    · exact slotFor arena value
  · exact nothing arena

end EnumeratesAt

end Arena

end Inspection
