import Inspection.Children.Kind
import Inspection.Formatter.Invocation
import Inspection.Formatter.Registry

/-! A value is classified once per stop; only an indexed value has its size asked for. -/

namespace Inspection

/-- The classifications made at the current stop. -/
abbrev Classifications := List (ValueId × Classification)

namespace Classifications

/-- Classifies a value from what its formatter offers, asking for a size only if that is cheap. -/
def determine (registry : Registry) (inquiry : Inquiry) (value : Value) (ledger : Ledger) :
    Classification × Ledger :=
  let provider := registry.resolve value.type.name
  let offered := provider.formatter.capabilities value.type
  -- Positions alone are not enough: their number must be on offer too.
  if offered.isIndexed then
    let (answer, ledger) := inquiry.size provider value ledger
    match answer with
    | .ok count => (⟨.indexed count, provider⟩, ledger)
    -- A failed size query leaves the children reachable one by one.
    | .error _ => (⟨.named, provider⟩, ledger)
  else if offered.named then (⟨.named, provider⟩, ledger)
  else (⟨.undeclared, provider⟩, ledger)

/-- The classification of a value, determined at most once. -/
def classify (known : Classifications) (registry : Registry) (inquiry : Inquiry) (value : Value)
    (ledger : Ledger) : Classification × Classifications × Ledger :=
  match known.lookup value.id with
  | some classification => (classification, known, ledger)
  | none =>
    -- The outcome is kept whether or not the size query succeeded.
    let (classification, ledger) := determine registry inquiry value ledger
    (classification, (value.id, classification) :: known, ledger)

end Classifications

end Inspection
