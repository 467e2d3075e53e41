import Inspection.Proofs.Formatter.Demand
import Mathlib.Algebra.BigOperators.Finprod
import Mathlib.Data.String.Basic

/-! The counters of a ledger are the numbers of the calls entered since they were last zeroed. -/

namespace Inspection

namespace CallCounts

/-- The counts after one more call. -/
def add (counts : CallCounts) (call : Call) : CallCounts :=
  ⟨counts.size + call.isSize.toNat, counts.child + call.isChild.toNat,
    counts.timedOut + call.timedOut.toNat⟩

/-- The counts that some calls are due under a name. -/
def due (calls : List Call) (name : String) : CallCounts :=
  ⟨calls.countP fun call => call.isSize && call.source.name == name,
    calls.countP fun call => call.isChild && call.source.name == name,
    calls.countP fun call => call.timedOut && call.source.name == name⟩

/-- One more call adds to what is due under the name of its formatter alone. -/
theorem due_append (calls : List Call) (call : Call) (name : String) :
    due (calls ++ [call]) name =
      if name = call.source.name then (due calls name).add call else due calls name := by
  -- Under any other name the call does not count.
  by_cases same : name = call.source.name
  · simp [due, add, same, List.countP_append, List.countP_singleton, Bool.toNat]
  · simp [due, same, List.countP_append, Ne.symm same]

/-- The names of the formatters that were asked for a size, in the order of the calls. -/
def sizeNames (calls : List Call) : List String :=
  (calls.filter Call.isSize).map fun call => call.source.name

/-- A name is due as many size queries as it stands among those that were asked. -/
theorem due_size (calls : List Call) (name : String) :
    (due calls name).size = (sizeNames calls).count name := by
  -- A name stands once for each size query to its formatter.
  rw [sizeNames, List.count, List.countP_map, List.countP_filter]
  simp only [due, Function.comp, Bool.and_comm]

/-- Over all names together as many size queries are due as were made. -/
theorem sum_due_size (calls : List Call) :
    ∑ᶠ name, (due calls name).size = (calls.filter Call.isSize).length := by
  -- Only the names that were asked count, and these are finitely many.
  have asked : (Function.support fun name => (due calls name).size) ⊆
      (sizeNames calls).toFinset := by
    intro name counted
    rw [Function.mem_support, due_size] at counted
    rw [Finset.mem_coe, List.mem_toFinset, ← List.count_pos_iff]
    exact Nat.pos_of_ne_zero counted
  rw [finsum_eq_sum_of_support_subset _ asked]
  simp only [due_size, List.sum_toFinset_count_eq_length]
  exact List.length_map _

end CallCounts

namespace Tally

/-- The names stand in their order, so that each of them stands once. -/
def Ordered (tally : Tally) : Prop := (tally.map Prod.fst).Pairwise (· < ·)

variable {tally : Tally} {name : String} {change : CallCounts → CallCounts}

/-- A name that is not entered counts nothing. -/
theorem counts_of_not_mem (absent : name ∉ tally.map Prod.fst) : tally.counts name = .zero := by
  -- Looking up a name compares it with each name that is entered.
  have missing : tally.lookup name = none := by
    rw [List.lookup_eq_none_iff]
    intro entry member
    rw [bne_iff_ne]
    rintro rfl
    exact absent (List.mem_map_of_mem member)
  rw [counts, missing]
  rfl

/-- The first entry is looked at first. -/
theorem counts_cons (entry : String × CallCounts) (rest : Tally) (name : String) :
    counts (entry :: rest) name = if name = entry.1 then entry.2 else counts rest name := by
  -- Entries are looked at in turn, so a later one of the same name does not matter.
  obtain ⟨other, found⟩ := entry
  by_cases same : name = other
  · simp [counts, same]
  · simp [counts, List.lookup_cons, beq_false_of_ne same, same]

/-- A change enters no name but its own. -/
theorem names_update {other : String}
    (member : other ∈ (tally.update name change).map Prod.fst) :
    other = name ∨ other ∈ tally.map Prod.fst := by
  -- Each entry of the changed tally is an old one or that of the changed name.
  obtain ⟨entry, among, rfl⟩ := List.mem_map.mp member
  rcases mem_update among with old | ⟨counts, rfl, _⟩
  · exact .inr (List.mem_map_of_mem old)
  · exact .inl rfl

/-- A change leaves the names in their order. -/
theorem Ordered.update (ordered : tally.Ordered) : (tally.update name change).Ordered := by
  -- The induction is on the entries that the name is compared with.
  induction tally with
  | nil => exact List.pairwise_singleton _ _
  | cons head rest ih =>
    obtain ⟨other, counts⟩ := head
    obtain ⟨first, later⟩ := List.pairwise_cons.mp ordered
    simp only [Tally.update]
    split
    · exact ordered
    · rename_i different
      split
      · -- A new name stands before the first that is behind it.
        rename_i before
        refine List.pairwise_cons.mpr ⟨fun behind member => ?_, ordered⟩
        rcases List.mem_cons.mp member with rfl | further
        · exact before
        · exact lt_trans before (first behind further)
      · -- The name goes further back, and what stands there is still behind the first.
        rename_i behind
        refine List.pairwise_cons.mpr ⟨fun entered member => ?_, ih later⟩
        rcases names_update member with rfl | old
        · exact lt_of_le_of_ne (not_lt.mp behind) different
        · exact first entered old

/-- A change shows under its own name alone. -/
theorem counts_update (ordered : tally.Ordered) (other : String) :
    (tally.update name change).counts other =
      if other = name then change (tally.counts name) else tally.counts other := by
  -- The induction is on the entries, among which a new name has none behind its place.
  induction tally with
  | nil => simp [Tally.update, counts_cons, counts_of_not_mem]
  | cons head rest ih =>
    obtain ⟨entered, found⟩ := head
    obtain ⟨first, later⟩ := List.pairwise_cons.mp ordered
    simp only [Tally.update]
    split
    · rename_i same
      subst same
      simp only [counts_cons, if_true]
      split <;> rfl
    · rename_i different
      split
      · -- A name that stands before all others has not been entered yet.
        rename_i before
        have absent : name ∉ ((entered, found) :: rest).map Prod.fst := by
          intro member
          rcases List.mem_cons.mp member with rfl | further
          · exact different rfl
          · exact lt_asymm before (first name further)
        rw [counts_cons, counts_of_not_mem absent]
      · rw [counts_cons, counts_cons _ rest name, if_neg (Ne.symm different), ih later,
          counts_cons _ rest other]
        -- The name entered here is another than the changed one.
        by_cases here : other = entered
        · have elsewhere : other ≠ name := fun same => different (here.symm.trans same)
          rw [if_pos here, if_pos here, if_neg elsewhere]
        · rw [if_neg here, if_neg here]

end Tally

namespace Ledger

variable {ledger : Ledger} {made : List Call}

/-- Enters some calls, oldest first. -/
def enterAll (ledger : Ledger) (calls : List Call) : Ledger := calls.foldl enter ledger

/-- Two stretches of calls are entered one after the other. -/
theorem enterAll_append (ledger : Ledger) (first second : List Call) :
    ledger.enterAll (first ++ second) = (ledger.enterAll first).enterAll second :=
  List.foldl_append

/-- Calls that are entered stand in front of the history, the newest first. -/
theorem history_enterAll (ledger : Ledger) (calls : List Call) :
    (ledger.enterAll calls).history = calls.reverse ++ ledger.history := by
  -- The induction is on the calls, each of which goes in front of those before it.
  induction calls generalizing ledger with
  | nil => rfl
  | cons call rest ih =>
    rw [List.reverse_cons, List.append_assoc, List.singleton_append, ← history_enter]
    exact ih (ledger.enter call)

/-- The counters tell of exactly these calls, oldest first. -/
structure Tells (ledger : Ledger) (made : List Call) : Prop where
  ordered : ledger.tally.Ordered
  counts : ∀ name, ledger.counts name = .due made name
  sizeLog : ledger.sizeLog = (made.filter Call.isSize).map fun call => call.value.type.name
  recent : ledger.recent = made.reverse

/-- Counts a call under its formatter before it is made, unless it is for a summary. -/
def countCall (ledger : Ledger) : Call → Ledger
  | .size source value _ => ledger.countSize source.name value.type.name
  | .child source _ _ _ => ledger.countChild source.name
  | .summary _ _ _ => ledger

/-- A call is entered by counting it and, once its answer is there, keeping it. -/
theorem enter_eq (ledger : Ledger) (call : Call) :
    ledger.enter call = (ledger.countCall call).finish call := by
  cases call <;> rfl

/-- Counting a call leaves the names in their order. -/
theorem ordered_countCall (ordered : ledger.tally.Ordered) (call : Call) :
    (ledger.countCall call).tally.Ordered := by
  -- Only queries for sizes and children are counted before their answer is there.
  cases call with
  | size _ _ _ | child _ _ _ _ => exact ordered.update
  | summary _ _ _ => exact ordered

/-- Finishing a call leaves the names in their order. -/
theorem ordered_finish (ordered : ledger.tally.Ordered) (call : Call) :
    (ledger.finish call).tally.Ordered := by
  -- Finishing changes the tally of a call that has timed out, and of no other.
  simp only [finish]
  split
  · exact ordered.update
  · exact ordered

/-- A call shows under the name of its formatter before it is known whether it times out. -/
theorem counts_countCall (ordered : ledger.tally.Ordered) (call : Call) (name : String) :
    (ledger.countCall call).counts name =
      if name = call.source.name then
        { (ledger.counts name).add call with timedOut := (ledger.counts name).timedOut }
      else ledger.counts name := by
  -- A call counts under one name; calls for summaries do not count as such.
  by_cases same : name = call.source.name
  · rw [if_pos same]
    cases call with
    | size source value answer =>
      refine (Tally.counts_update ordered name).trans ((if_pos same).trans ?_)
      rw [same]
      rfl
    | child source value key answer =>
      refine (Tally.counts_update ordered name).trans ((if_pos same).trans ?_)
      rw [same]
      rfl
    | summary source value answer => rfl
  · rw [if_neg same]
    cases call with
    | size _ _ _ | child _ _ _ _ => exact (Tally.counts_update ordered name).trans (if_neg same)
    | summary _ _ _ => rfl

/-- A finished call shows under the name of its formatter if it has timed out. -/
theorem counts_finish (ordered : ledger.tally.Ordered) (call : Call) (name : String) :
    (ledger.finish call).counts name =
      if name = call.source.name then
        { ledger.counts name with
          timedOut := (ledger.counts name).timedOut + call.timedOut.toNat }
      else ledger.counts name := by
  -- Only a call that has timed out is counted again once its answer is there.
  simp only [finish]
  split
  · rename_i late
    refine (Tally.counts_update ordered name).trans ?_
    split
    · rename_i same
      rw [same, late]
      rfl
    · rfl
  · rename_i intime
    rw [Bool.eq_false_of_not_eq_true intime]
    exact (ite_self _).symm

/-- A call that is entered is counted under the name of its formatter. -/
theorem counts_enter (ordered : ledger.tally.Ordered) (call : Call) (name : String) :
    (ledger.enter call).counts name =
      if name = call.source.name then (ledger.counts name).add call else ledger.counts name := by
  -- What is counted before the answer and after it makes up the whole call.
  rw [enter_eq, counts_finish (ordered_countCall ordered call), counts_countCall ordered]
  split <;> rfl

/-- A call that is entered adds the name of its type to the size log if it is a size query. -/
theorem sizeLog_enter (ledger : Ledger) (call : Call) :
    (ledger.enter call).sizeLog =
      ledger.sizeLog ++ if call.isSize then [call.value.type.name] else [] := by
  -- The log is written before the answer is there.
  have finished : ((ledger.countCall call).finish call).sizeLog =
      (ledger.countCall call).sizeLog := by
    simp only [finish]
    split <;> rfl
  rw [enter_eq, finished]
  cases call with
  | size _ _ _ => rfl
  | child _ _ _ _ | summary _ _ _ => exact (List.append_nil _).symm

/-- A call that is entered is the newest of those since the counters were zeroed. -/
theorem recent_enter (ledger : Ledger) (call : Call) :
    (ledger.enter call).recent = call :: ledger.recent := by
  -- Whatever is counted, the call goes in front of the recent ones.
  rw [enter_eq, finish]
  cases call <;> split <;> rfl

namespace Tells

/-- A ledger whose counters have been zeroed tells of no call. -/
theorem of_zeroed (earlier : List Call) : Tells ⟨[], [], [], earlier⟩ [] :=
  ⟨List.Pairwise.nil, fun _ => rfl, rfl, rfl⟩

/-- A ledger tells of one more call once the call has been entered. -/
theorem enter (tells : ledger.Tells made) (call : Call) :
    (ledger.enter call).Tells (made ++ [call]) where
  ordered := by
    rw [enter_eq]
    exact ordered_finish (ordered_countCall tells.ordered call) call
  counts name := by
    rw [counts_enter tells.ordered, tells.counts, CallCounts.due_append]
  sizeLog := by
    rw [sizeLog_enter, tells.sizeLog, List.filter_append, List.map_append]
    -- A size query is written to the log, and no other call is.
    cases sized : call.isSize <;> simp [sized]
  recent := by
    rw [recent_enter, tells.recent, List.reverse_append]
    rfl

/-- A ledger tells of more calls once they have been entered. -/
theorem enterAll (tells : ledger.Tells made) (calls : List Call) :
    (ledger.enterAll calls).Tells (made ++ calls) := by
  -- The induction is on the calls, oldest first.
  induction calls generalizing ledger made with
  | nil =>
    rw [List.append_nil]
    exact tells
  | cons call rest ih =>
    have entered := ih (tells.enter call)
    rw [List.append_assoc] at entered
    exact entered

/-- The size queries counted over all names are those of the size log. -/
theorem sum_sizes (tells : ledger.Tells made) :
    ∑ᶠ name, (ledger.counts name).size = ledger.sizeLog.length := by
  -- The names that are due a query make up the log, one entry for each.
  simp only [tells.counts, CallCounts.sum_due_size, tells.sizeLog, List.length_map]

end Tells

end Ledger

end Inspection
