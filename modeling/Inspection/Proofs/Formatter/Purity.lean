import Inspection.Children.Enumeration
import Inspection.Classification
import Inspection.Proofs.Formatter.Registry

/-! Formatters that ignore earlier calls answer alike whatever has been counted. -/

namespace Inspection

/-- A formatter whose answers do not depend on the calls made before. -/
structure Formatter.Pure (formatter : Formatter) : Prop where
  summary : ∀ calls others replay value,
    formatter.summary calls replay value = formatter.summary others replay value
  size : ∀ calls others replay value,
    formatter.size calls replay value = formatter.size others replay value
  child : ∀ calls others replay value key,
    formatter.child calls replay value key = formatter.child others replay value key

/-- The native formatter looks at the stopped program alone. -/
theorem Formatter.native_pure : Formatter.native.Pure :=
  ⟨fun _ _ _ _ => rfl, fun _ _ _ _ => rfl, fun _ _ _ _ _ => rfl⟩

/-- A registry of formatters whose answers do not depend on the calls made before. -/
def Registry.Pure (registry : Registry) : Prop :=
  ∀ entry ∈ registry.entries, entry.formatter.Pure

namespace Registry

variable {registry : Registry}

/-- The formatter for a type is a registered one or the native one. -/
theorem resolve_pure (pure : registry.Pure) (typeName : String) :
    (registry.resolve typeName).formatter.Pure := by
  -- What holds of all registered formatters holds of a resolved one unless it is native.
  have all : registry.All Formatter.Pure := pure
  rcases all.resolve typeName with native | ⟨name, formatter, registered, alsoPure⟩
  · rw [native]
    exact Formatter.native_pure
  · rw [registered]
    exact alsoPure

end Registry

namespace Inquiry

variable {provider : Provider} (inquiry : Inquiry) (value : Value) (ledger other : Ledger)

/-- A pure formatter gives the same size whatever has been counted. -/
theorem size_unaffected (pure : provider.formatter.Pure) :
    (inquiry.size provider value ledger).1 = (inquiry.size provider value other).1 := by
  -- The history is all that the answer could take from the ledger.
  simp only [size]
  rw [pure.size ledger.history other.history]

/-- A pure formatter gives the same child whatever has been counted. -/
theorem child_unaffected (pure : provider.formatter.Pure) (key : ChildKey) :
    (inquiry.child provider value key ledger).1 = (inquiry.child provider value key other).1 := by
  -- The history is all that the answer could take from the ledger.
  simp only [child]
  rw [pure.child ledger.history other.history]

/-- A pure formatter gives the same summary whatever has been counted. -/
theorem summary_unaffected (pure : provider.formatter.Pure) :
    (inquiry.summary provider value ledger).1 = (inquiry.summary provider value other).1 := by
  -- The history is all that the answer could take from the ledger.
  simp only [summary]
  rw [pure.summary ledger.history other.history]

end Inquiry

/-- Pure formatters lead to the same classification whatever has been counted. -/
theorem Classifications.determine_unaffected {registry : Registry} (pure : registry.Pure)
    (inquiry : Inquiry) (value : Value) (ledger other : Ledger) :
    (determine registry inquiry value ledger).1 = (determine registry inquiry value other).1 := by
  -- The formatter is resolved from the registry, which is the same for both.
  have answers := inquiry.size_unaffected value ledger other
    (registry.resolve_pure pure value.type.name)
  simp only [determine]
  split
  · -- The size query is the only call, and its answer decides.
    rw [answers]
    split <;> rfl
  · split <;> rfl

namespace Handle

variable {provider : Provider} (inquiry : Inquiry) (value : Value)

/-- Fetching from a pure formatter is the same whatever has been counted. -/
theorem fetch_unaffected (pure : provider.formatter.Pure) (index : Nat) (handle : Handle)
    (ledger other : Ledger) :
    (handle.fetch inquiry provider value index ledger).answer =
        (handle.fetch inquiry provider value index other).answer ∧
      (handle.fetch inquiry provider value index ledger).handle =
        (handle.fetch inquiry provider value index other).handle := by
  -- A remembered child needs no call, and any other is asked of a pure formatter.
  have answers := inquiry.child_unaffected value ledger other pure (.position index)
  simp only [fetch]
  cases handle.child? index with
  | some child => exact ⟨rfl, rfl⟩
  | none =>
    simp only [answers]
    split <;> exact ⟨rfl, rfl⟩

/-- Serving by position from a pure formatter is the same whatever has been counted. -/
theorem serveIndexed_unaffected (pure : provider.formatter.Pure) (count remaining index : Nat)
    (handle : Handle) (ledger other : Ledger) :
    (serveIndexed inquiry provider value count remaining index handle ledger).answer =
        (serveIndexed inquiry provider value count remaining index handle other).answer ∧
      (serveIndexed inquiry provider value count remaining index handle ledger).handle =
        (serveIndexed inquiry provider value count remaining index handle other).handle := by
  -- The counters drift apart as children are fetched, so both stay general in the induction.
  induction remaining generalizing index handle ledger other with
  | zero => exact ⟨rfl, rfl⟩
  | succ further ih =>
    obtain ⟨answers, handles⟩ := fetch_unaffected inquiry value pure index handle ledger other
    -- The rest starts from the same handle, though not from the same counters.
    simp only [serveIndexed, answers, handles]
    obtain ⟨rest, left⟩ := ih (index + 1) (handle.fetch inquiry provider value index other).handle
      (handle.fetch inquiry provider value index ledger).ledger
      (handle.fetch inquiry provider value index other).ledger
    exact ⟨congrArg _ rest, left⟩

/-- Serving by name from a pure formatter is the same whatever has been counted. -/
theorem serveNamed_unaffected (pure : provider.formatter.Pure) (remaining index : Nat)
    (handle : Handle) (ledger other : Ledger) :
    (serveNamed inquiry provider value remaining index handle ledger).answer =
        (serveNamed inquiry provider value remaining index handle other).answer ∧
      (serveNamed inquiry provider value remaining index handle ledger).handle =
        (serveNamed inquiry provider value remaining index handle other).handle := by
  -- The counters drift apart as children are fetched, so both stay general in the induction.
  induction remaining generalizing index handle ledger other with
  | zero => exact ⟨rfl, rfl⟩
  | succ further ih =>
    obtain ⟨answers, handles⟩ := fetch_unaffected inquiry value pure index handle ledger other
    obtain ⟨rest, left⟩ := ih (index + 1) (handle.fetch inquiry provider value index other).handle
      (handle.fetch inquiry provider value index ledger).ledger
      (handle.fetch inquiry provider value index other).ledger
    -- Where serving ends does not depend on the counters either.
    simp only [serveNamed]
    split
    · exact ⟨rfl, rfl⟩
    · simp only [answers, handles]
      split
      · exact ⟨rfl, rfl⟩
      · simp only [rest, left, and_self]
      · simp only [rest, left, and_self]

/-- A window from a pure formatter is the same whatever has been counted. -/
theorem enumerate_unaffected (pure : provider.formatter.Pure) (handle : Handle)
    (kind : ChildrenKind) (window : Window) (maxNamed : Nat) (ledger other : Ledger) :
    (handle.enumerate kind provider window maxNamed inquiry ledger).answer =
        (handle.enumerate kind provider window maxNamed inquiry other).answer ∧
      (handle.enumerate kind provider window maxNamed inquiry ledger).handle =
        (handle.enumerate kind provider window maxNamed inquiry other).handle := by
  -- The window and the limit decide what is asked for, and neither looks at the counters.
  simp only [enumerate]
  split
  · -- The locals of a frame are not enumerated.
    exact ⟨rfl, rfl⟩
  · rename_i value _
    cases kind with
    | indexed count =>
      obtain ⟨answers, handles⟩ := serveIndexed_unaffected inquiry value pure count _ _
        (handle.markClassified (.indexed count)) ledger other
      exact ⟨answers, congrArg (recordWindow · _) handles⟩
    | named | undeclared =>
      obtain ⟨answers, handles⟩ := serveNamed_unaffected inquiry value pure _ _
        (handle.markClassified _) ledger other
      exact ⟨answers, congrArg (recordWindow · _) handles⟩

end Handle

namespace Console

/-- A line that asks for the counters. -/
def AsksForCounters (line : String) : Prop :=
  parse line = .ok .counters ∨ parse line = .ok .sizeCalls

/-- What a line does to the registry does not depend on what has been counted. -/
theorem run_registry (line : String) (registry : Registry) (ledger other : Ledger) :
    (run line registry ledger).registry = (run line registry other).registry := by
  -- Only a deletion and a clearing change the registry, and neither looks at the ledger.
  simp only [run]
  split
  · rename_i command _
    cases command with
    | delete name =>
      simp only [execute]
      split <;> rfl
    | help | list | counters | sizeCalls | clear | reset => rfl
  · -- A line that is no command changes nothing.
    rfl

/-- Only a line that asks for the counters answers with them. -/
theorem run_output {line : String} (discreet : ¬AsksForCounters line) (registry : Registry)
    (ledger other : Ledger) :
    (run line registry ledger).output = (run line registry other).output := by
  -- The two lines that print counters are excluded, and no other prints any.
  simp only [run]
  split
  · rename_i command parsed
    cases command with
    | counters => exact absurd (.inl parsed) discreet
    | sizeCalls => exact absurd (.inr parsed) discreet
    | delete name =>
      simp only [execute]
      split <;> rfl
    | help | list | clear | reset => rfl
  · -- A line that is no command is answered with its error.
    rfl

end Console

end Inspection
