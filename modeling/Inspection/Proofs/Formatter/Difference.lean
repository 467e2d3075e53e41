import Mathlib.Data.List.Forall2
import Inspection.Proofs.Formatter.Purity

/-! Formatters that differ in one child of one value classify and summarize all values alike. -/

namespace Inspection

variable {id : ValueId} {index : Nat}

/-- Two formatters that agree but for the child of one identity in one position. -/
structure Formatter.DiffersAt (id : ValueId) (index : Nat) (left right : Formatter) : Prop where
  capabilities : right.capabilities = left.capabilities
  summary : right.summary = left.summary
  size : right.size = left.size
  child : ∀ calls replay value key, ¬(value.id = id ∧ key = .position index) →
    right.child calls replay value key = left.child calls replay value key

/-- A formatter agrees with itself. -/
theorem Formatter.DiffersAt.refl (formatter : Formatter) :
    formatter.DiffersAt id index formatter := ⟨rfl, rfl, rfl, fun _ _ _ _ _ => rfl⟩

/-- Two providers from one source whose formatters agree but for one child. -/
structure Provider.DiffersAt (id : ValueId) (index : Nat) (left right : Provider) : Prop where
  source : right.source = left.source
  formatter : left.formatter.DiffersAt id index right.formatter

/-- Two registrations for the same types whose formatters agree but for one child. -/
structure Registration.DiffersAt (id : ValueId) (index : Nat) (left right : Registration) :
    Prop where
  name : right.name = left.name
  pattern : right.pattern = left.pattern
  formatter : left.formatter.DiffersAt id index right.formatter

/-- Two registries with the same registrations but for one child. -/
def Registry.DiffersAt (id : ValueId) (index : Nat) (left right : Registry) : Prop :=
  List.Forall₂ (Registration.DiffersAt id index) left.entries right.entries

/-- Two classifications of one kind by providers that agree but for one child. -/
structure Classification.DiffersAt (id : ValueId) (index : Nat) (left right : Classification) :
    Prop where
  kind : right.kind = left.kind
  provider : left.provider.DiffersAt id index right.provider

namespace Registry

variable {left right : Registry}

/-- Searches by pattern find registrations that differ in the one child at most. -/
theorem DiffersAt.find? (differs : left.DiffersAt id index right) (test : TypePattern → Bool) :
    Option.Rel (Registration.DiffersAt id index)
      (left.entries.find? fun entry => test entry.pattern)
      (right.entries.find? fun entry => test entry.pattern) := by
  -- The induction is on the registrations, of which two by two have one pattern.
  rw [Registry.DiffersAt] at differs
  generalize left.entries = entries, right.entries = others at differs ⊢
  induction differs with
  | nil => exact .none
  | @cons entry other entries others first _ ih =>
    rw [List.find?_cons, List.find?_cons, first.pattern]
    cases test entry.pattern with
    | true => exact .some first
    | false => exact ih

/-- Registries that differ in one child find registrations that differ there at most. -/
theorem DiffersAt.lookup (differs : left.DiffersAt id index right) (typeName : String) :
    Option.Rel (Registration.DiffersAt id index) (left.lookup typeName)
      (right.lookup typeName) := by
  -- Where neither has an exact name, both turn to expressions.
  have exact := differs.find? fun pattern => pattern.isExact && pattern.covers typeName
  have expression := differs.find? fun pattern => !pattern.isExact && pattern.covers typeName
  simp only [Registry.lookup]
  generalize left.entries.find? _ = first, right.entries.find? _ = other at exact ⊢
  cases exact with
  | none => exact expression
  | some related => exact .some related

/-- Registries that differ in one child resolve a type to providers that differ there at most. -/
theorem DiffersAt.resolve (differs : left.DiffersAt id index right) (typeName : String) :
    (left.resolve typeName).DiffersAt id index (right.resolve typeName) := by
  -- Where neither has a registration the native formatter answers for both.
  have found := differs.lookup typeName
  simp only [Registry.resolve]
  generalize left.lookup typeName = entry, right.lookup typeName = other at found ⊢
  cases found with
  | none => exact ⟨rfl, .refl _⟩
  | some related => exact ⟨congrArg Source.user related.name, related.formatter⟩

end Registry

namespace Provider.DiffersAt

variable {left right : Provider} (differs : left.DiffersAt id index right)
include differs

/-- Providers from one source are both native or both registered. -/
theorem isNative : right.isNative = left.isNative := by
  simp only [Provider.isNative, differs.source]

/-- Providers from one source are called under one budget. -/
theorem budgetFor (inquiry : Inquiry) : inquiry.budgetFor right = inquiry.budgetFor left := by
  -- What is native runs without a limit, and what is registered within that of the inquiry.
  simp only [Inquiry.budgetFor, differs.isNative]

variable (pure : left.formatter.Pure) (inquiry : Inquiry) (value : Value) (ledger other : Ledger)
include pure

/-- The difference does not show in a size. -/
theorem inquiry_size :
    (inquiry.size right value other).1 = (inquiry.size left value ledger).1 := by
  -- Both run the same query, whatever they have counted before.
  simp only [Inquiry.size, differs.budgetFor, differs.formatter.size]
  rw [pure.size other.history ledger.history]

/-- The difference does not show in a summary. -/
theorem inquiry_summary :
    (inquiry.summary right value other).1 = (inquiry.summary left value ledger).1 := by
  -- Both run the same call, whatever they have counted before.
  simp only [Inquiry.summary, differs.budgetFor, differs.formatter.summary]
  rw [pure.summary other.history ledger.history]

/-- The difference shows in no child but one. -/
theorem inquiry_child {key : ChildKey} (elsewhere : ¬(value.id = id ∧ key = .position index)) :
    (inquiry.child right value key other).1 = (inquiry.child left value key ledger).1 := by
  -- Both run the same call, whatever they have counted before.
  simp only [Inquiry.child, differs.budgetFor,
    differs.formatter.child other.history inquiry.replay value key elsewhere]
  rw [pure.child other.history ledger.history]

end Provider.DiffersAt

/-- The difference does not show in a new classification. -/
theorem Classifications.determine_differs {left right : Registry}
    (differs : left.DiffersAt id index right) (pure : left.Pure) (inquiry : Inquiry)
    (value : Value) (ledger other : Ledger) :
    (determine left inquiry value ledger).1.DiffersAt id index
      (determine right inquiry value other).1 := by
  -- The capabilities and the size decide, and both providers have the same.
  have providers := differs.resolve value.type.name
  have sizes := providers.inquiry_size (left.resolve_pure pure _) inquiry value ledger other
  simp only [determine, providers.formatter.capabilities, sizes]
  split
  · -- A size makes the kind indexed, and a failed query leaves the children reachable by name.
    split <;> exact ⟨rfl, providers⟩
  · split <;> exact ⟨rfl, providers⟩

end Inspection
