import Inspection.Console

/-! What holds of every registered formatter holds of a resolved one and of those left over. -/

namespace Inspection

namespace Registry

variable {registry : Registry} {Holds : Formatter → Prop}

/-- Something holds of every registered formatter. -/
def All (Holds : Formatter → Prop) (registry : Registry) : Prop :=
  ∀ entry ∈ registry.entries, Holds entry.formatter

/-- Anything holds of all formatters where none is registered. -/
theorem All.empty : Registry.empty.All Holds := fun _ member => by cases member

/-- A look-up finds one of the registrations. -/
theorem mem_of_lookup {typeName : String} {entry : Registration}
    (found : registry.lookup typeName = some entry) : entry ∈ registry.entries := by
  -- An exact name is tried first and an expression after it; both are searches in the list.
  simp only [lookup, Option.or_eq_some_iff] at found
  rcases found with exact | ⟨_, expression⟩
  · exact List.mem_of_find?_eq_some exact
  · exact List.mem_of_find?_eq_some expression

/-- The provider for a type is the native one or carries a registered formatter. -/
theorem All.resolve (all : registry.All Holds) (typeName : String) :
    registry.resolve typeName = .native ∨
      ∃ name formatter, registry.resolve typeName = ⟨.user name, formatter⟩ ∧ Holds formatter := by
  -- Where nothing matches the native formatter answers.
  simp only [Registry.resolve]
  cases found : registry.lookup typeName with
  | none => exact .inl rfl
  | some entry => exact .inr ⟨entry.name, entry.formatter, rfl, all entry (mem_of_lookup found)⟩

/-- Taking out a registration leaves the others as they are. -/
theorem All.unregister (all : registry.All Holds) (name : String) :
    (registry.unregister name).2.All Holds :=
  fun entry member => all entry (List.mem_of_mem_eraseP member)

end Registry

/-- A console line can take formatters away but cannot bring in new ones. -/
theorem Console.run_all {registry : Registry} {Holds : Formatter → Prop}
    (all : registry.All Holds) (line : String) (ledger : Ledger) :
    (run line registry ledger).registry.All Holds := by
  -- What is left after a deletion was there before it.
  simp only [run]
  split
  · rename_i command _
    cases command with
    | delete name =>
      have left := all.unregister name
      simp only [execute]
      split <;> rename_i taken <;> rw [taken] at left <;> exact left
    | clear => exact .empty
    | help | list | counters | sizeCalls | reset => exact all
  · -- A line that is no command does nothing.
    exact all

end Inspection
