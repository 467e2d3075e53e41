import Inspection.Proofs.Formatter.Steady
import Inspection.Session

/-! What the formatters of a session have in common decides who supplies the children of a value. -/

namespace Inspection

/-- A classification that some formatters of a kind give a value. -/
def Classification.DueTo (classification : Classification) (Holds : Formatter → Prop)
    (inquiry : Inquiry) (value : Value) : Prop :=
  ∃ registry ledger, registry.All Holds ∧
    classification = (Classifications.determine registry inquiry value ledger).1

/-- A provider that is the native one or carries a formatter of a kind. -/
def Provider.IsOf (provider : Provider) (Holds : Formatter → Prop) : Prop :=
  provider = .native ∨ ∃ name formatter, provider = ⟨.user name, formatter⟩ ∧ Holds formatter

/-- The provider that decides a classification is kept in it. -/
theorem Classifications.determine_provider (registry : Registry) (inquiry : Inquiry)
    (value : Value) (ledger : Ledger) :
    (determine registry inquiry value ledger).1.provider = registry.resolve value.type.name := by
  -- Whichever way the kind is found, the provider was resolved before.
  simp only [determine]
  split
  · split <;> rfl
  · split <;> rfl

namespace Provider.IsOf

variable {provider : Provider} {Holds : Formatter → Prop}

/-- Only the provider of last resort counts as native. -/
theorem eq_native (isOf : provider.IsOf Holds) (native : provider.isNative = true) :
    provider = .native := by
  rcases isOf with same | ⟨name, formatter, rfl, _⟩
  · exact same
  · cases native

/-- What holds of the native formatter and of all of a kind holds of the provider's. -/
theorem formatter {Also : Formatter → Prop} (isOf : provider.IsOf Holds) (native : Also .native)
    (weaker : ∀ formatter, Holds formatter → Also formatter) : Also provider.formatter := by
  rcases isOf with rfl | ⟨name, formatter, rfl, holds⟩
  · exact native
  · exact weaker formatter holds

end Provider.IsOf

namespace Classification.DueTo

variable {classification : Classification} {Holds : Formatter → Prop} {inquiry : Inquiry}
  {value : Value} {node : RecordedValue}

/-- The formatter that decides a classification is one of the kind. -/
theorem provider (due : classification.DueTo Holds inquiry value) :
    classification.provider.IsOf Holds := by
  -- Resolving a type gives a registered formatter or the one of last resort.
  obtain ⟨registry, ledger, all, rfl⟩ := due
  rw [Classifications.determine_provider]
  exact all.resolve value.type.name

/-- The formatter that supplies the children is one of the kind. -/
theorem childProvider (due : classification.DueTo Holds inquiry value) :
    (Session.childProvider classification).IsOf Holds := by
  -- A value whose children were not declared is expanded by the native formatter.
  unfold Session.childProvider
  split
  · exact .inl rfl
  · exact due.provider
  · exact due.provider

/-- Where the native formatter decides, a recorded value is classified by its kind. -/
theorem eq_native (due : classification.DueTo Holds inquiry value)
    (same : value = node.toValue value.id)
    (native : classification.provider.isNative = true) :
    classification = ⟨node.childrenKind, .native⟩ := by
  -- The formatters decide by resolving, so the classification is the one of last resort.
  have resolved := due.provider.eq_native native
  obtain ⟨registry, ledger, all, rfl⟩ := due
  rw [Classifications.determine_provider] at resolved
  exact Classifications.determine_native inquiry resolved same ledger

end Classification.DueTo

/-- How the children of a recorded value are reached by a declared formatter. -/
def Declaration.childrenKind (declaration : Declaration) (node : RecordedValue) : ChildrenKind :=
  if declaration.indexed then .indexed (declaration.size.getD node.offspring.length)
  else if declaration.named then .named else .undeclared

/-- A declared formatter classifies a recorded value by its declaration. -/
theorem Classification.DueTo.kind_declared {classification : Classification} {inquiry : Inquiry}
    {value : Value} {node : RecordedValue} {Holds : Formatter → Prop} {name : String}
    {declaration : Declaration} (due : classification.DueTo Holds inquiry value)
    (has : inquiry.replay.Has value node)
    (declared : classification.provider = ⟨.user name, declaration.formatter⟩) :
    classification.kind = declaration.childrenKind node := by
  obtain ⟨registry, ledger, all, rfl⟩ := due
  rw [Classifications.determine_provider] at declared
  -- A fixed size is told as it is, and without one the recorded children are counted.
  have sized : ∀ ledger, (inquiry.size ⟨.user name, declaration.formatter⟩ value ledger).1 =
      .ok (declaration.size.getD node.offspring.length) := by
    intro ledger
    show declaration.sizeOf inquiry.replay value = _
    cases fixed : declaration.size with
    | some size => simp only [Declaration.sizeOf, fixed, Option.getD_some]
    | none =>
      simp only [Declaration.sizeOf, fixed, Replay.childCount, has.1, Option.getD_none]
      rfl
  have offered : declaration.formatter.capabilities value.type = declaration.capabilities := rfl
  -- What is declared is what the formatter offers, and only a size is asked for.
  simp only [Classifications.determine, declared, offered, Declaration.childrenKind,
    Declaration.capabilities, Capabilities.isIndexed, Bool.and_self]
  split
  · rw [sized]
  · split <;> rfl

/-- Among declared formatters a recorded value is classified by its kind or by a declaration. -/
theorem Classification.DueTo.eq_or_declared {classification : Classification} {inquiry : Inquiry}
    {value : Value} {node : RecordedValue}
    (due : classification.DueTo Formatter.IsDeclared inquiry value)
    (has : inquiry.replay.Has value node) :
    classification = ⟨node.childrenKind, .native⟩ ∨ ∃ name declaration, classification =
      ⟨Declaration.childrenKind declaration node, ⟨.user name, declaration.formatter⟩⟩ := by
  rcases due.provider with native | ⟨name, _, declared, declaration, rfl⟩
  · exact .inl (due.eq_native has.2 (congrArg Provider.isNative native))
  · refine .inr ⟨name, declaration, ?_⟩
    rw [← due.kind_declared has declared, ← declared]

/-- Whatever child is answered for a value among declared formatters is a recorded one. -/
theorem Classification.DueTo.child_recorded {classification : Classification} {inquiry : Inquiry}
    {value child : Value} {key : ChildKey} {ledger : Ledger}
    (due : classification.DueTo Formatter.IsDeclared inquiry value)
    (given : (inquiry.child (Session.childProvider classification) value key ledger).1 =
      .ok (some child)) : inquiry.replay.child value key = .ok (some child) := by
  -- A declared formatter leaves out positions, and passes on the native child of any other.
  rcases due.childProvider with native | ⟨name, _, declared, declaration, rfl⟩
  · rw [native, Inquiry.child_native] at given
    exact nativeChild_eq_ok_iff.mp given
  · rw [declared, Inquiry.child_declared] at given
    exact (Declaration.child_of_childOf given).1

/-- Whatever fixed size a declared formatter has as a provider, it covers a position. -/
def Provider.Covers (provider : Provider) (index : Nat) : Prop :=
  ∀ (name : String) (declaration : Declaration) (size : Nat),
    provider = ⟨.user name, declaration.formatter⟩ → declaration.size = some size → index < size

/-- A declaration with a fixed size covers the positions below it, and any other one covers all. -/
theorem Provider.covers_declared_iff {name : String} {declaration : Declaration} {index : Nat} :
    (⟨.user name, declaration.formatter⟩ : Provider).Covers index ↔
      ∀ size, declaration.size = some size → index < size := by
  constructor
  · intro covers size fixed
    exact covers name declaration size rfl fixed
  · -- The formatter does not keep its declaration, but the sizes that it tells give it away.
    intro bounded _ other size same fixed
    -- A size that is fixed is told even where nothing is recorded.
    have told : declaration.sizeOf ⟨[], 0⟩ default = other.sizeOf ⟨[], 0⟩ default :=
      Attempt.returns.inj
        (congrArg (fun provider => provider.formatter.size [] ⟨[], 0⟩ default) same)
    cases own : declaration.size with
    | none =>
      simp only [Declaration.sizeOf, own, fixed] at told
      cases told
    | some announced =>
      simp only [Declaration.sizeOf, own, fixed, Except.ok.injEq] at told
      exact told ▸ bounded announced own

/-- A recorded child is answered for its position exactly if a fixed size covers the position. -/
theorem Classification.DueTo.given_iff {classification : Classification} {inquiry : Inquiry}
    {value child : Value} {index : Nat} {ledger : Ledger}
    (due : classification.DueTo Formatter.IsDeclared inquiry value)
    (recorded : inquiry.replay.child value (.position index) = .ok (some child)) :
    (inquiry.child (Session.childProvider classification) value (.position index) ledger).1 =
      .ok (some child) ↔ (Session.childProvider classification).Covers index := by
  constructor
  · -- What was given was not left out by the fixed size.
    intro given name declaration size declared fixed
    rw [declared, Inquiry.child_declared] at given
    have kept := (Declaration.child_of_childOf given).2
    exact Nat.lt_of_not_le fun beyond => kept ⟨size, fixed, beyond⟩
  · -- What the fixed size covers is passed on as the native child.
    intro covers
    rcases due.childProvider with native | ⟨name, _, declared, declaration, rfl⟩
    · rw [native, Inquiry.child_native]
      exact nativeChild_eq_ok_iff.mpr recorded
    · have inside : ¬ declaration.LeavesOut (.position index) := fun ⟨size, fixed, beyond⟩ =>
        Nat.not_lt_of_le beyond (covers name declaration size declared fixed)
      rw [declared, Inquiry.child_declared, Declaration.childOf_of_not_leavesOut inside]
      exact nativeChild_eq_ok_iff.mpr recorded

/-- An announced size covers every position in which there is a child. -/
theorem Classification.DueTo.lt_of_indexed {classification : Classification} {inquiry : Inquiry}
    {value child : Value} {node : RecordedValue} {index count : Nat} {ledger : Ledger}
    (due : classification.DueTo Formatter.IsDeclared inquiry value)
    (has : inquiry.replay.Has value node) (sized : classification.kind = .indexed count)
    (given : (inquiry.child (Session.childProvider classification) value (.position index)
      ledger).1 = .ok (some child)) : index < count := by
  -- The announced size is the number of recorded children or the fixed size of a declaration.
  have inside := (Replay.child_recorded has (due.child_recorded given)).1
  have covers := (due.given_iff (due.child_recorded given)).mp given
  have supplied : Session.childProvider classification = classification.provider := by
    simp only [Session.childProvider, sized]
  rw [supplied] at covers
  rcases due.eq_or_declared has with rfl | ⟨name, declaration, rfl⟩
  · -- The length of an array is the number of its recorded children.
    cases kind : node.kind <;> simp only [RecordedValue.childrenKind, kind] at sized <;> cases sized
    rwa [RecordedValue.offspring, kind] at inside
  · -- A fixed size covers the position, and without one the recorded children are counted.
    simp only [Declaration.childrenKind] at sized
    split at sized
    · cases sized
      cases fixed : declaration.size with
      | none => rwa [Option.getD_none]
      | some size => exact covers name declaration size rfl fixed
    · split at sized <;> cases sized

end Inspection
