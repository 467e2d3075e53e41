import Inspection.Proofs.Children.Demand
import Inspection.Proofs.Children.Resemblance
import Inspection.Proofs.Children.Run
import Inspection.Proofs.Formatter.Purity

/-! What has been served or described is served and described again in the same way. -/

namespace Inspection

/-- The position in which an outcome is a failure. -/
def ChildOutcome.failedAt? : ChildOutcome → Option Nat
  | child _ => none
  | failed index _ => some index

/-- The positions in which some outcomes are failures. -/
def failures (outcomes : List ChildOutcome) : List Nat :=
  outcomes.filterMap ChildOutcome.failedAt?

/-- An outcome adds its own position to the failures, or nothing. -/
theorem failures_cons (outcome : ChildOutcome) (rest : List ChildOutcome) :
    failures (outcome :: rest) = outcome.failedAt?.toList ++ failures rest := by
  -- A child is not a failure.
  cases outcome <;> rfl

/-- An answer without a child is a failure in its own position, unless it is the end. -/
theorem ChildrenKind.failedAt?_of_outcome? {kind : ChildrenKind} {index : Nat}
    {answer : Except FormatterError (Option Value)} {outcome : ChildOutcome}
    (missing : ∀ child, answer ≠ .ok (some child))
    (shown : kind.outcome? index answer = some outcome) : outcome.failedAt? = some index := by
  rcases answer with error | _ | child
  · cases shown
    rfl
  · -- Only a size makes a failure of a child that is not there.
    cases kind with
    | indexed count =>
      cases shown
      rfl
    | named | undeclared => cases shown
  · -- There is no child among the answers considered.
    exact absurd rfl (missing child)

namespace Handle

section serve

variable {inquiry : Inquiry} {provider : Provider} {value : Value} {handle : Handle}
  {kind : ChildrenKind}

variable (inquiry provider value kind) in
/-- Serving a run leaves alone what lies before it, and also whether it can be reached. -/
theorem serveRun_before (remaining index : Nat) (handle : Handle) (ledger : Ledger)
    {position : Nat} (before : position < index) :
    (serveRun inquiry provider value kind remaining index handle ledger).handle.child? position =
        handle.child? position ∧
      (serveRun inquiry provider value kind remaining index handle ledger).handle.stopsAt kind
        position = handle.stopsAt kind position := by
  -- The induction is on the run, all of whose positions lie behind the one considered.
  induction remaining, index, handle, ledger using serveRun_induct inquiry provider value kind with
  | zero =>
    rw [serveRun_zero]
    exact ⟨rfl, rfl⟩
  | stopped further index handle ledger stops =>
    rw [serveRun_of_stops stops]
    exact ⟨rfl, rfl⟩
  | ended further index handle ledger onward shown =>
    rw [serveRun_of_end onward shown]
    refine ⟨child?_fetch_of_ne (Nat.ne_of_lt before), ?_⟩
    -- Neither the old end nor the new one lies at the position or before it.
    have reached : handle.stopsAt kind position = false := by
      rw [Bool.eq_false_iff]
      intro early
      rw [stopsAt_mono early (Nat.le_of_lt before)] at onward
      cases onward
    rw [reached, Bool.eq_false_iff]
    intro early
    obtain ⟨_, bound, within, ended⟩ := stopsAt_iff.mp early
    cases ended
    exact Nat.not_le_of_lt before within
  | outcome further index handle ledger outcome onward shown ih =>
    rw [serveRun_of_outcome onward shown]
    -- Neither the fetch nor the rest of the run comes back to the position.
    obtain ⟨children, ends⟩ := ih (Nat.lt_succ_of_lt before)
    exact ⟨children.trans (child?_fetch_of_ne (Nat.ne_of_lt before)),
      ends.trans (stopsAt_congr (fetch_namedEnd handle index ledger) kind position)⟩

/-- What has been fetched once is fetched again alike, and only a failure is asked for again. -/
theorem fetch_again (kind : ChildrenKind) (pure : provider.formatter.Pure) {later : Handle}
    {index : Nat} {ledger : Ledger} (kept : later.child? index =
      (handle.fetch inquiry provider value index ledger).handle.child? index) (after : Ledger) :
    (later.fetch inquiry provider value index after).answer =
        (handle.fetch inquiry provider value index ledger).answer ∧
      (later.fetch inquiry provider value index after).handle = later ∧
      ∃ asked, after.Asked asked (later.fetch inquiry provider value index after).ledger ∧
        ∀ outcome, kind.outcome? index
            (handle.fetch inquiry provider value index ledger).answer = some outcome →
          List.Forall₂ (fun index call => inquiry.Requests provider value (.position index) call)
            outcome.failedAt?.toList asked := by
  cases found : later.child? index with
  | some child =>
    -- A remembered child was the answer, and it is not asked for.
    have given := child?_fetch_self.mp (kept.symm.trans found)
    rw [fetch_of_remembered inquiry provider value after found, given]
    refine ⟨rfl, rfl, [], .nothing after, fun outcome shown => ?_⟩
    cases shown
    exact .nil
  | none =>
    -- What is unknown was asked for, and the answer is the same whatever has been counted.
    have unknown := child?_of_fetch (kept.symm.trans found)
    have same := inquiry.child_unaffected value after ledger pure (.position index)
    have answered : (handle.fetch inquiry provider value index ledger).answer =
        (inquiry.child provider value (.position index) after).1 := by
      rw [fetch_of_unknown inquiry provider value ledger unknown, same]
    have missing : ∀ child,
        (inquiry.child provider value (.position index) after).1 ≠ .ok (some child) := by
      intro child given
      have remembered := child?_fetch_self.mpr (answered.trans given)
      rw [← kept, found] at remembered
      cases remembered
    rw [fetch_of_unknown inquiry provider value after found, answered]
    refine ⟨rfl, ?_, _, inquiry.child_asked provider value after (.position index),
      fun outcome shown => ?_⟩
    · -- Without a child the fetch leaves the handle as it was.
      rcases answer : (inquiry.child provider value (.position index) after).1 with
        error | _ | child
      · rfl
      · rfl
      · exact absurd answer (missing child)
    · -- Where it is an outcome it is a failure, and this call asks for it.
      rw [ChildrenKind.failedAt?_of_outcome? missing shown]
      exact .cons ⟨after, rfl⟩ .nil

/-- A run that has been served is served again alike, and only its failures are asked for again. -/
theorem serveRun_again (pure : provider.formatter.Pure) (remaining index : Nat)
    {handle later : Handle} {ledger : Ledger}
    (children : ∀ position, later.child? position =
      (serveRun inquiry provider value kind remaining index handle ledger).handle.child? position)
    (ended : later.namedEnd =
      (serveRun inquiry provider value kind remaining index handle ledger).handle.namedEnd)
    (after : Ledger) :
    (serveRun inquiry provider value kind remaining index later after).answer =
        (serveRun inquiry provider value kind remaining index handle ledger).answer ∧
      (serveRun inquiry provider value kind remaining index later after).handle = later ∧
      ∃ asked, after.Asked asked
          (serveRun inquiry provider value kind remaining index later after).ledger ∧
        List.Forall₂ (fun index call => inquiry.Requests provider value (.position index) call)
          (failures (serveRun inquiry provider value kind remaining index handle ledger).answer)
          asked := by
  -- The induction is on the first run; the second one always starts from the same handle.
  induction remaining, index, handle, ledger using serveRun_induct inquiry provider value kind
    generalizing after with
  | zero =>
    rw [serveRun_zero, serveRun_zero]
    exact ⟨rfl, rfl, [], .nothing after, .nil⟩
  | stopped further index handle ledger stops =>
    -- Where the first run stopped the second one stops as well.
    rw [serveRun_of_stops stops] at ended ⊢
    rw [serveRun_of_stops ((stopsAt_congr ended kind index).trans stops)]
    exact ⟨rfl, rfl, [], .nothing after, .nil⟩
  | ended further index handle ledger onward shown =>
    -- The end that the first run found here stops the second one.
    rw [serveRun_of_end onward shown] at ended ⊢
    have marked := stopsAt_markEnd shown
      (handle.fetch inquiry provider value index ledger).handle
    rw [serveRun_of_stops ((stopsAt_congr ended kind index).trans marked)]
    exact ⟨rfl, rfl, [], .nothing after, .nil⟩
  | outcome further index handle ledger outcome onward shown ih =>
    rw [serveRun_of_outcome onward shown] at children ended ⊢
    -- The rest of the first run has left alone what its first fetch found out.
    obtain ⟨child, unstopped⟩ := serveRun_before inquiry provider value kind further (index + 1)
      (handle.fetch inquiry provider value index ledger).handle
      (handle.fetch inquiry provider value index ledger).ledger (Nat.lt_succ_self index)
    rw [stopsAt_congr (fetch_namedEnd handle index ledger), onward] at unstopped
    obtain ⟨answer, same, asked, made, matched⟩ := fetch_again kind pure
      ((children index).trans child) after
    rw [serveRun_of_outcome ((stopsAt_congr ended kind index).trans unstopped) (answer ▸ shown),
      same]
    -- The rest is served again from the same handle.
    obtain ⟨answers, left, more, madeThen, matchedThen⟩ := ih children ended
      (later.fetch inquiry provider value index after).ledger
    simp only [answers, left]
    refine ⟨trivial, trivial, _, made.trans madeThen, ?_⟩
    rw [failures_cons]
    exact List.rel_append (matched outcome shown) matchedThen

/-- After a page a handle is not unresolved. -/
theorem enumerate_resolved (target : handle.target = .value value) (kind : ChildrenKind)
    (window : Window) (maxNamed : Nat) (ledger : Ledger) :
    (handle.enumerate kind provider window maxNamed inquiry ledger).handle.state ≠ .unresolved := by
  -- A page ends with the record of its window.
  rw [enumerate_of_value target]
  exact nofun

variable (inquiry) in
/-- A page that has been served is served again alike, and only its failures are asked for again. -/
theorem enumerate_again (pure : provider.formatter.Pure) (target : handle.target = .value value)
    (kind : ChildrenKind) (window : Window) (maxNamed : Nat) (ledger after : Ledger) :
    let served := handle.enumerate kind provider window maxNamed inquiry ledger
    let again := served.handle.enumerate kind provider window maxNamed inquiry after
    again.answer = served.answer ∧ again.handle = served.handle ∧
      ∃ asked, after.Asked asked again.ledger ∧
        List.Forall₂ (fun index call => inquiry.Requests provider value (.position index) call)
          (failures served.answer) asked := by
  intro served again
  -- The served handle has the same target, so it is served by a run as well.
  have kept : served.handle.target = .value value :=
    (enumerate_frame handle kind provider window maxNamed inquiry ledger).1.trans target
  simp only [again, enumerate_of_value kept]
  simp only [served, enumerate_of_value target, markClassified_recordWindow]
  -- The record of the window changes neither what is remembered nor the end.
  generalize run : serveRun inquiry provider value kind (window.run kind maxNamed).2
    (window.run kind maxNamed).1 (handle.markClassified kind) ledger = first
  have children : ∀ position, (first.handle.recordWindow kind).child? position =
      (serveRun inquiry provider value kind (window.run kind maxNamed).2
        (window.run kind maxNamed).1 (handle.markClassified kind) ledger).handle.child? position :=
    run ▸ fun _ => rfl
  obtain ⟨answers, same, asked⟩ := serveRun_again pure _ _ children (run ▸ rfl) after
  rw [run] at answers asked
  rw [same]
  exact ⟨answers, recordWindow_ofState _ _ kind, asked⟩

/-- The failures of a page are some of its positions, each once and in order. -/
theorem failures_sublist (pure : provider.formatter.Pure) (target : handle.target = .value value)
    (kind : ChildrenKind) (window : Window) (maxNamed : Nat) (ledger : Ledger) :
    (failures (handle.enumerate kind provider window maxNamed inquiry ledger).answer).Sublist
      (window.positions kind maxNamed) := by
  -- They are what a second page would ask for.
  obtain ⟨_, _, asked, made, matched⟩ := enumerate_again inquiry pure target kind window maxNamed
    ledger ledger
  have kept := (enumerate_frame handle kind provider window maxNamed inquiry ledger).1.trans target
  obtain ⟨demanded, madeAlso, indexes, within, _, matchedAlso⟩ :=
    enumerate_demands kept kind window maxNamed ledger
  rw [madeAlso.unique made] at matchedAlso
  rwa [Inquiry.requests_unique matchedAlso matched] at within

end serve

end Handle

namespace Arena

variable {arena before after : Arena} {value : Value} {classification : Classification}

/-- What a later arena keeps of every handle: the target, and whatever has been learned of it. -/
def Keeps (before after : Arena) : Prop :=
  ∀ slot handle, before.handle? slot = some handle → ∃ later, after.handle? slot = some later ∧
    later.target = handle.target ∧ (handle.state ≠ .unresolved → later = handle)

/-- An arena keeps its own handles. -/
theorem Keeps.refl (arena : Arena) : arena.Keeps arena :=
  fun _ handle found => ⟨handle, found, rfl, fun _ => rfl⟩

/-- What is kept in two stretches is kept in both together. -/
theorem Keeps.trans {first second third : Arena} (early : first.Keeps second)
    (late : second.Keeps third) : first.Keeps third := by
  -- The handle passes through the arena in between.
  intro slot handle found
  obtain ⟨between, foundThen, targetThen, sameThen⟩ := early slot handle found
  obtain ⟨later, foundLater, target, same⟩ := late slot between foundThen
  refine ⟨later, foundLater, target.trans targetThen, fun resolved => ?_⟩
  -- A handle that was kept as it is stays one of which something has been learned.
  have unchanged := sameThen resolved
  exact (same (unchanged ▸ resolved)).trans unchanged

/-- Finding or making a value's handle keeps every handle as it is. -/
theorem slotFor_handle? {slot : Nat} {handle : Handle} (found : arena.handle? slot = some handle)
    (value : Value) : (arena.slotFor value).2.handle? slot = some handle := by
  cases placed : arena.slotOf value.id with
  | some place =>
    simp only [slotFor, placed]
    exact found
  | none =>
    -- The new handle stands behind all the others.
    have taken : slot < arena.handles.size := (Array.getElem?_eq_some_iff.mp found).choose
    simp only [handle?, (slotFor_adds placed).handles, Array.getElem?_push,
      if_neg (Nat.ne_of_lt taken)]
    exact found

/-- Describing a value at most records the kind of its children in its own handle. -/
theorem Keeps.describe (arena : Arena) (value : Value) (classification : Classification)
    (summary : Option String) :
    arena.Keeps (arena.describe value classification summary).2 := by
  intro slot handle found
  have kept := slotFor_handle? found value
  simp only [Arena.describe]
  split
  · simp only [offer]
    split
    · -- The record is made in the value's own place, and every other handle is left alone.
      rename_i offered there
      rw [handle?_setHandle]
      split
      · rename_i here
        subst here
        rw [kept] at there
        cases there
        refine ⟨_, by rw [kept]; rfl, Handle.markClassified_target handle _, fun resolved => ?_⟩
        exact Handle.markClassified_of_resolved resolved _
      · exact ⟨handle, kept, rfl, fun _ => rfl⟩
    · exact ⟨handle, kept, rfl, fun _ => rfl⟩
  · -- A value that cannot be expanded touches no handle.
    exact ⟨handle, found, rfl, fun _ => rfl⟩

/-- A reference leads on where the generation goes on and its handle is still there. -/
theorem resolve_of_keeps {reference : Int64} {slot : Nat} {handle : Handle}
    (resolved : before.resolve reference = some slot) (found : after.handle? slot = some handle)
    (generation : after.generation = before.generation) :
    after.resolve reference = some slot := by
  have taken : slot < after.size := (Array.getElem?_eq_some_iff.mp found).choose
  -- Both look-ups decode the reference alike and compare it with the same generation.
  simp only [resolve] at resolved ⊢
  split at resolved
  · rename_i present place _
    split at resolved
    · rename_i both
      cases resolved
      rw [generation, if_pos ⟨both.1, taken⟩]
    · cases resolved
  · cases resolved

/-- Replacing a handle by itself changes nothing. -/
theorem setHandle_of_found {slot : Nat} {handle : Handle}
    (found : arena.handle? slot = some handle) : arena.setHandle slot handle = arena := by
  -- The handle is in bounds, and the array has it there already.
  obtain ⟨taken, same⟩ := Array.getElem?_eq_some_iff.mp found
  simp only [setHandle, ← same, Array.setIfInBounds, taken, dif_pos, Array.set_getElem_self]

/-- A value has a handle in which the kind of its children is recorded. -/
def Offered (arena : Arena) (value : Value) : Prop :=
  ∃ slot handle, arena.slotOf value.id = some slot ∧ arena.handle? slot = some handle ∧
    handle.state ≠ .unresolved

/-- Whoever keeps places and handles keeps what has been offered. -/
theorem Offered.mono (offered : before.Offered value) (grown : before.Extends after)
    (keeps : before.Keeps after) : after.Offered value := by
  obtain ⟨slot, handle, placed, found, resolved⟩ := offered
  -- The kind has been recorded, so the handle is kept as it is.
  obtain ⟨later, foundLater, _, same⟩ := keeps slot handle found
  exact ⟨slot, later, grown.places (.value value.id) slot placed, foundLater,
    (same resolved) ▸ resolved⟩

/-- An expandable value has been offered once it is described. -/
theorem offered_describe (formed : arena.WellFormed) (summary : Option String)
    (expandable : classification.isExpandable value = true) :
    (arena.describe value classification summary).2.Offered value := by
  have placed := slotFor_place arena value
  obtain ⟨handle, found, _⟩ := (slotFor_grows formed value).1 _ _ placed
  -- Offering records the kind in the handle that was found or made.
  simp only [describe, expandable, if_true, offer, found]
  exact ⟨_, _, placed, handle?_setHandle_self found _,
    Handle.markClassified_resolved handle classification.kind⟩

/-- What has been offered is described without a change. -/
theorem describe_of_offered
    (offered : classification.isExpandable value = true → arena.Offered value)
    (summary : Option String) : (arena.describe value classification summary).2 = arena := by
  simp only [describe]
  split
  · -- The place is found, and the kind that it records already is recorded no second time.
    rename_i expandable
    obtain ⟨slot, handle, placed, found, resolved⟩ := offered expandable
    simp only [offer, slotFor, placed, found, Handle.markClassified_of_resolved resolved]
    exact setHandle_of_found found
  · -- Without an offer nothing is written.
    rfl

/-- Describing a value shows this descriptor and changes nothing. -/
def Shows (arena : Arena) (value : Value) (classification : Classification)
    (summary : Option String) (shown : Descriptor) : Prop :=
  arena.describe value classification summary = (shown, arena)

/-- A later arena that has kept the place and the count of a value shows it as it was described. -/
theorem shows_of_extends (formed : before.WellFormed) (formedThen : after.WellFormed)
    (summary : Option String)
    (grown : (before.describe value classification summary).2.Extends after)
    (counted : after.enumeratedCount value.id = before.enumeratedCount value.id)
    (offered : classification.isExpandable value = true → after.Offered value) :
    after.Shows value classification summary
      (before.describe value classification summary).1 := by
  -- The descriptor is decided by the reference and the count, neither of which has changed.
  have unmoved := describe_of_offered offered summary
  have reference : (after.describe value classification summary).1.reference =
      (before.describe value classification summary).1.reference := by
    have first := describe_reference formed value classification summary
    have second := describe_reference formedThen value classification summary
    rw [unmoved] at second
    split at first
    · -- Both references are to the one place of the value.
      rename_i expandable
      rw [if_pos expandable] at second
      obtain ⟨slot, placed, same⟩ := first
      obtain ⟨other, placedThen, sameThen⟩ := second
      rw [grown.places _ _ placed] at placedThen
      cases placedThen
      rw [same, sameThen, grown.referenceAt]
    · -- A value that cannot be expanded has no reference either time.
      rename_i closed
      rw [if_neg closed] at second
      rw [first, second]
  exact Prod.ext (describe_congr formed formedThen reference counted) unmoved

/-- A value that has been described is described again alike. -/
theorem shows_describe (formed : arena.WellFormed) (value : Value) (classification : Classification)
    (summary : Option String) :
    (arena.describe value classification summary).2.Shows value classification summary
      (arena.describe value classification summary).1 :=
  shows_of_extends formed (describe_grows formed value classification summary).1 summary (.refl _)
    (enumeratedCount_describe formed value classification summary value.id)
    (offered_describe formed summary)

/-- What has been described is shown alike after another value has been described. -/
theorem Shows.describe {summary : Option String} {shown : Descriptor}
    (shows : arena.Shows value classification summary shown) (formed : arena.WellFormed)
    (other : Value) (ruling : Classification) (another : Option String) :
    (arena.describe other ruling another).2.Shows value classification summary shown := by
  have unmoved : (arena.describe value classification summary).2 = arena :=
    congrArg Prod.snd shows
  obtain ⟨formedThen, grown⟩ := describe_grows formed other ruling another
  -- What was offered has its handle still.
  have offered : classification.isExpandable value = true → arena.Offered value :=
    fun expandable => unmoved ▸ offered_describe formed summary expandable
  have later := shows_of_extends formed formedThen summary (by rwa [unmoved])
    (enumeratedCount_describe formed other ruling another value.id)
    fun expandable => (offered expandable).mono grown (.describe arena other ruling another)
  rwa [shows] at later

end Arena

end Inspection
