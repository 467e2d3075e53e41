import Inspection.Formatter.Invocation

/-! Every call is kept once: the history grows by the calls that are made and by nothing else. -/

namespace Inspection

namespace Ledger

variable (ledger : Ledger)

/-- Counting a size query adds no call. -/
@[simp] theorem history_countSize (name typeName : String) :
    (ledger.countSize name typeName).history = ledger.history := rfl

/-- Counting a request for a child adds no call. -/
@[simp] theorem history_countChild (name : String) :
    (ledger.countChild name).history = ledger.history := rfl

/-- A finished call is the newest of the history. -/
@[simp] theorem history_finish (call : Call) :
    (ledger.finish call).history = call :: ledger.history := by
  -- Counting a timeout leaves the calls alone.
  simp only [finish]
  split <;> rfl

/-- Setting the counters to zero forgets no call. -/
@[simp] theorem history_reset : ledger.reset.history = ledger.history := rfl

end Ledger

namespace Inquiry

variable (inquiry : Inquiry) (provider : Provider) (value : Value) (ledger : Ledger)

/-- Asking for a size is one call, kept with its answer. -/
theorem history_size :
    (inquiry.size provider value ledger).2.history =
      .size provider.source value (inquiry.size provider value ledger).1 :: ledger.history := by
  -- Counting comes before the call and leaves the history alone; finishing adds the call.
  simp only [size, Ledger.history_finish, Ledger.history_countSize]

/-- Asking for a child is one call, kept with its answer. -/
theorem history_child (key : ChildKey) :
    (inquiry.child provider value key ledger).2.history =
      .child provider.source value key (inquiry.child provider value key ledger).1 ::
        ledger.history := by
  -- Counting comes before the call and leaves the history alone; finishing adds the call.
  simp only [child, Ledger.history_finish, Ledger.history_countChild]

/-- Asking for a summary is one call. -/
theorem history_summary :
    ∃ answer, (inquiry.summary provider value ledger).2.history =
      .summary provider.source value answer :: ledger.history := by
  -- A summary is not counted, only finished.
  simp only [summary, Ledger.history_finish]
  exact ⟨_, rfl⟩

end Inquiry

/-- A later ledger differs by calls of which none asked for a size. -/
def Ledger.GrowsWithoutSize (before after : Ledger) : Prop :=
  ∃ calls, after.history = calls ++ before.history ∧ ∀ call ∈ calls, call.isSize = false

namespace Ledger.GrowsWithoutSize

/-- Without a call nothing grows. -/
theorem of_history_eq {before after : Ledger} (same : after.history = before.history) :
    before.GrowsWithoutSize after :=
  ⟨[], same, by simp⟩

/-- One call that asks for no size adds just itself. -/
theorem of_call {before after : Ledger} {call : Call} (other : call.isSize = false)
    (made : after.history = call :: before.history) : before.GrowsWithoutSize after :=
  ⟨[call], made, by simpa using other⟩

/-- What two stretches add is added by both together. -/
theorem trans {first second third : Ledger} (early : first.GrowsWithoutSize second)
    (late : second.GrowsWithoutSize third) : first.GrowsWithoutSize third := by
  -- The calls of the later stretch stand in front, for the history has the newest first.
  obtain ⟨old, oldHistory, oldOther⟩ := early
  obtain ⟨new, newHistory, newOther⟩ := late
  refine ⟨new ++ old, by rw [newHistory, oldHistory, List.append_assoc], ?_⟩
  intro call member
  rcases List.mem_append.mp member with recent | past
  · exact newOther call recent
  · exact oldOther call past

end Ledger.GrowsWithoutSize

end Inspection
