import Inspection.Proofs.Formatter.Ledger

/-! A ledger changes only by the calls entered in it, so a child that is counted was asked for. -/

namespace Inspection

/-- The key that a call asked for. -/
def Call.key? : Call → Option ChildKey
  | child _ _ key _ => some key
  | size .. | summary .. => none

/-- The requests for children among some calls. -/
def childRequests (calls : List Call) : List Call := calls.filter Call.isChild

/-- Requests for children in two stretches of calls. -/
theorem childRequests_append (first second : List Call) :
    childRequests (first ++ second) = childRequests first ++ childRequests second :=
  List.filter_append ..

namespace Ledger

/-- Enters a call: it is counted under its formatter, unless it is for a summary, and then kept. -/
def enter (ledger : Ledger) (call : Call) : Ledger :=
  let counted := match call with
    | .size source value _ => ledger.countSize source.name value.type.name
    | .child source _ _ _ => ledger.countChild source.name
    | .summary _ _ _ => ledger
  counted.finish call

/-- A call that is entered is the newest of the history. -/
@[simp] theorem history_enter (ledger : Ledger) (call : Call) :
    (ledger.enter call).history = call :: ledger.history := by
  -- Whatever is counted, counting adds no call.
  cases call <;> simp only [enter, history_finish, history_countSize, history_countChild]

/-- A ledger comes from another by entering calls, oldest first, and by zeroing the counters. -/
inductive Entered (before : Ledger) : List Call → Ledger → Prop where
  | nothing : Entered before [] before
  | call {calls : List Call} {after : Ledger} (entered : Entered before calls after) (call : Call) :
      Entered before (calls ++ [call]) (after.enter call)
  | reset {calls : List Call} {after : Ledger} (entered : Entered before calls after) :
      Entered before calls after.reset

namespace Entered

variable {before between after : Ledger} {first second calls : List Call}

/-- What two stretches enter is entered by both together. -/
theorem trans (early : before.Entered first between) (late : between.Entered second after) :
    before.Entered (first ++ second) after := by
  -- The induction is on the later stretch, whose calls come last.
  induction late with
  | nothing => simpa using early
  | call _ call ih => simpa using ih.call call
  | reset _ ih => exact ih.reset

/-- The history grows by what is entered, and zeroing the counters forgets none of it. -/
theorem history (entered : before.Entered calls after) :
    after.history = calls.reverse ++ before.history := by
  -- The history has the newest call first.
  induction entered with
  | nothing => rfl
  | call _ call ih => rw [history_enter, ih, List.reverse_append]; rfl
  | reset _ ih => rw [history_reset, ih]

/-- Every request for a child is one that was there before or one that was entered. -/
theorem childRequests_history (entered : before.Entered calls after) :
    childRequests after.history =
      (childRequests calls).reverse ++ childRequests before.history := by
  rw [entered.history, childRequests_append]
  exact congrArg (· ++ _) List.filter_reverse

end Entered

/-- Between two ledgers these children were asked for, oldest first, and no others. -/
def Asked (before : Ledger) (asked : List Call) (after : Ledger) : Prop :=
  ∃ calls, before.Entered calls after ∧ childRequests calls = asked

namespace Asked

variable {before between after : Ledger} {first second : List Call}

/-- Where nothing changes nothing was asked for. -/
theorem nothing (ledger : Ledger) : ledger.Asked [] ledger := ⟨[], .nothing, rfl⟩

/-- What was asked for in two stretches was asked for in both together. -/
theorem trans (early : before.Asked first between) (late : between.Asked second after) :
    before.Asked (first ++ second) after := by
  -- The calls of both stretches are put together, and so are the requests among them.
  obtain ⟨old, oldEntered, oldAsked⟩ := early
  obtain ⟨new, newEntered, newAsked⟩ := late
  exact ⟨old ++ new, oldEntered.trans newEntered, by rw [childRequests_append, oldAsked, newAsked]⟩

/-- Between two ledgers only one list of children was asked for. -/
theorem unique (one : before.Asked first after) (other : before.Asked second after) :
    first = second := by
  -- Both lists are what the history has grown by.
  obtain ⟨calls, entered, asked⟩ := one
  obtain ⟨others, otherEntered, otherAsked⟩ := other
  -- So the two lists are cut off the same history.
  have grown := entered.childRequests_history
  rw [otherEntered.childRequests_history, asked, otherAsked] at grown
  exact (List.reverse_inj.mp (List.append_cancel_right grown)).symm

end Asked

end Ledger

namespace Inquiry

variable (inquiry : Inquiry) (provider : Provider) (value : Value) (ledger : Ledger)

/-- Asking for a size asks for no child. -/
theorem size_asked : ledger.Asked [] (inquiry.size provider value ledger).2 :=
  ⟨_, .call .nothing (.size provider.source value (inquiry.size provider value ledger).1), rfl⟩

/-- Asking for a summary asks for no child. -/
theorem summary_asked : ledger.Asked [] (inquiry.summary provider value ledger).2 :=
  ⟨_, .call .nothing (.summary provider.source value _), rfl⟩

/-- Asking for a child is one request, kept with its answer. -/
theorem child_asked (key : ChildKey) :
    ledger.Asked [.child provider.source value key (inquiry.child provider value key ledger).1]
      (inquiry.child provider value key ledger).2 :=
  ⟨_, .call .nothing (.child provider.source value key (inquiry.child provider value key ledger).1),
    rfl⟩

end Inquiry

/-- An entry after a change is an old one or the changed one. -/
theorem Tally.mem_update {tally : Tally} {name : String} {change : CallCounts → CallCounts}
    {entry : String × CallCounts} (member : entry ∈ tally.update name change) :
    entry ∈ tally ∨ ∃ counts, entry = (name, change counts) ∧
      (counts = .zero ∨ (name, counts) ∈ tally) := by
  -- The induction is on the entries that the name is compared with.
  induction tally with
  | nil =>
    rw [List.mem_singleton.mp member]
    exact .inr ⟨.zero, rfl, .inl rfl⟩
  | cons head rest ih =>
    obtain ⟨other, counts⟩ := head
    simp only [update] at member
    split at member
    · -- The entry of the name itself is changed.
      rename_i same
      subst same
      rcases List.mem_cons.mp member with changed | kept
      · exact .inr ⟨counts, changed, .inr List.mem_cons_self⟩
      · exact .inl (List.mem_cons_of_mem _ kept)
    · split at member
      · -- A new name is entered before the ones behind it.
        rcases List.mem_cons.mp member with added | kept
        · exact .inr ⟨.zero, added, .inl rfl⟩
        · exact .inl kept
      · -- A name that sorts before is passed over.
        rcases List.mem_cons.mp member with kept | later
        · exact .inl (List.mem_cons.mpr (.inl kept))
        · rcases ih later with kept | ⟨counts, changed, known⟩
          · exact .inl (List.mem_cons_of_mem _ kept)
          · exact .inr ⟨counts, changed, known.imp_right (List.mem_cons_of_mem _)⟩

/-- Where children are counted for a formatter, one of the calls asked it for a child. -/
def Tally.Backed (tally : Tally) (calls : List Call) : Prop :=
  ∀ entry ∈ tally, 0 < entry.2.child →
    ∃ call ∈ calls, call.isChild = true ∧ call.source.name = entry.1

/-- More calls back whatever fewer do. -/
theorem Tally.Backed.cons {tally : Tally} {calls : List Call} (backed : tally.Backed calls)
    (call : Call) : tally.Backed (call :: calls) := by
  -- The call that backs an entry is still there.
  intro entry member counted
  obtain ⟨made, known, asks⟩ := backed entry member counted
  exact ⟨made, List.mem_cons_of_mem call known, asks⟩

/-- A change that counts a child only where one was asked for leaves a tally backed. -/
theorem Tally.Backed.update {tally : Tally} {calls : List Call} (backed : tally.Backed calls)
    {name : String} {change : CallCounts → CallCounts}
    (justified : ∀ counts, 0 < (change counts).child → 0 < counts.child ∨
      ∃ call ∈ calls, call.isChild = true ∧ call.source.name = name) :
    (tally.update name change).Backed calls := by
  -- An entry is either untouched or the changed one.
  intro entry member counted
  rcases mem_update member with old | ⟨counts, rfl, known⟩
  · exact backed entry old counted
  · -- The change was made for a call, or something was counted before it.
    rcases justified counts counted with before | asked
    · rcases known with rfl | old
      · exact absurd before (Nat.lt_irrefl 0)
      · exact backed (name, counts) old before
    · exact asked

namespace Ledger

/-- The calls since the counters were zeroed bear out the children counted. -/
def Backed (ledger : Ledger) : Prop := ledger.tally.Backed ledger.recent

/-- Finishing a call, which may be counted as timed out, counts no child. -/
theorem Backed.finish {ledger : Ledger} {call : Call}
    (backed : ledger.tally.Backed (call :: ledger.recent)) : (ledger.finish call).Backed := by
  simp only [Ledger.finish]
  split
  · exact backed.update fun counts counted => .inl counted
  · exact backed

/-- A call that is entered is borne out by itself. -/
theorem Backed.enter {ledger : Ledger} (backed : ledger.Backed) (call : Call) :
    (ledger.enter call).Backed := by
  -- Only a request for a child counts one, and it is among the calls then.
  have more : ledger.tally.Backed (call :: ledger.recent) := Tally.Backed.cons backed call
  cases call with
  | size source value answer =>
    apply Backed.finish
    exact more.update fun counts counted => .inl counted
  | child source value key answer =>
    apply Backed.finish
    exact more.update fun counts _ => .inr ⟨_, List.mem_cons_self, rfl, rfl⟩
  | summary source value answer => exact Backed.finish more

/-- Whatever is entered, the children counted stay borne out. -/
theorem Backed.entered {before after : Ledger} {calls : List Call} (backed : before.Backed)
    (entered : before.Entered calls after) : after.Backed := by
  -- The induction is on what is entered.
  induction entered with
  | nothing => exact backed
  | call _ call ih => exact ih.enter call
  | reset _ _ =>
    -- A ledger with zeroed counters has no entries.
    intro entry member
    cases member

/-- Where no child was ever asked for none is counted. -/
theorem Backed.child_eq_zero {ledger : Ledger} (backed : ledger.Backed)
    (unasked : childRequests ledger.history = []) : ∀ entry ∈ ledger.tally, entry.2.child = 0 := by
  -- A counted child would have a request behind it.
  intro entry member
  apply Nat.eq_zero_of_not_pos
  intro counted
  obtain ⟨call, recent, asks, _⟩ := backed entry member counted
  -- A recent call is one of the history.
  exact List.filter_eq_nil_iff.mp unasked call (List.mem_append_left _ recent) asks

end Ledger

end Inspection
