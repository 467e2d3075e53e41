import Inspection.Proofs.Formatter.Purity
import Inspection.Proofs.Replay

/-! A steady formatter gives a child for a key at any time, and only children that are reported. -/

namespace Inspection

/--
A formatter whose children depend on the value and the key alone.

Under every budget there is nothing behind a position past the end, and every child that is handed
out is one that the stopped program itself reports.
-/
structure Formatter.Steady (stops : List RecordedStop) (formatter : Formatter) : Prop where
  unaffected : ∀ calls others cursor value key,
    formatter.child calls ⟨stops, cursor⟩ value key =
      formatter.child others ⟨stops, cursor⟩ value key
  ended : ∀ (budget : CallBudget) calls cursor value first later, first ≤ later →
    budget.run .child (formatter.child calls ⟨stops, cursor⟩ value (.position first)) = .ok none →
      budget.run .child (formatter.child calls ⟨stops, cursor⟩ value (.position later)) = .ok none
  reported : ∀ (budget : CallBudget) calls cursor value key child,
    budget.run .child (formatter.child calls ⟨stops, cursor⟩ value key) = .ok (some child) →
      (⟨stops, cursor⟩ : Replay).Reports child

/-- A formatter that some declaration describes. -/
def Formatter.IsDeclared (formatter : Formatter) : Prop :=
  ∃ declaration : Declaration, formatter = declaration.formatter

/-- Declared formatters ignore earlier calls. -/
theorem Formatter.IsDeclared.pure {formatter : Formatter} (declared : formatter.IsDeclared) :
    formatter.Pure := by
  -- A declaration answers from the value and the recording, and never looks at the calls.
  obtain ⟨declaration, rfl⟩ := declared
  exact ⟨fun _ _ _ _ => rfl, fun _ _ _ _ => rfl, fun _ _ _ _ _ => rfl⟩

section Native

variable {replay : Replay} {value : Value}

/-- The native formatter answers as the stopped program does. -/
theorem nativeChild_eq_ok_iff {key : ChildKey} {answer : Option Value} :
    nativeChild replay value key = .ok answer ↔ replay.child value key = .ok answer := by
  -- Only an error is reworded on the way.
  rw [nativeChild]
  cases replay.child value key with
  | error error =>
    constructor
    · intro given
      cases given
    · intro given
      cases given
  | ok found =>
    -- An answer is passed on as it is.
    constructor
    · intro given
      cases given
      rfl
    · intro given
      cases given
      rfl

/-- The native formatter is steady. -/
theorem Formatter.native_steady (stops : List RecordedStop) : Formatter.native.Steady stops where
  unaffected _ _ _ _ _ := rfl
  -- The native formatter always returns, so every budget hands on its own answer.
  ended _ _ _ _ _ _ within nothing :=
    nativeChild_eq_ok_iff.mpr (Replay.child_ended within (nativeChild_eq_ok_iff.mp nothing))
  reported _ _ _ _ _ _ given :=
    Replay.reports_of_child (nativeChild_eq_ok_iff.mp given)

/-- A fixed size leaves out a position. -/
def Declaration.LeavesOut (declaration : Declaration) : ChildKey → Prop
  | .position index => ∃ size, declaration.size = some size ∧ size ≤ index
  | .member _ => False

/-- A declared formatter has no child in the positions that it leaves out. -/
theorem Declaration.childOf_of_leavesOut {declaration : Declaration} {key : ChildKey}
    (outside : declaration.LeavesOut key) : declaration.childOf replay value key = .ok none := by
  -- A name is never left out, and a position is refused before the program is asked.
  cases key with
  | member name => cases outside
  | position index =>
    obtain ⟨size, fixed, beyond⟩ := outside
    simp only [childOf, fixed]
    exact if_pos beyond

/-- For every other key a declared formatter gives the native child. -/
theorem Declaration.childOf_of_not_leavesOut {declaration : Declaration} {key : ChildKey}
    (inside : ¬ declaration.LeavesOut key) :
    declaration.childOf replay value key = nativeChild replay value key := by
  -- A fixed size is all that stands between a declared formatter and the native one.
  cases key with
  | member name => cases fixed : declaration.size <;> simp only [childOf, fixed]
  | position index =>
    cases fixed : declaration.size with
    | none => simp only [childOf, fixed]
    | some size =>
      have below : ¬ size ≤ index := fun beyond => inside ⟨size, fixed, beyond⟩
      simp only [childOf, fixed, if_neg below]

/-- Whatever child a declared formatter gives is the native one. -/
theorem Declaration.child_of_childOf {declaration : Declaration} {key : ChildKey} {child : Value}
    (given : declaration.childOf replay value key = .ok (some child)) :
    replay.child value key = .ok (some child) ∧ ¬ declaration.LeavesOut key := by
  -- In a position that is left out there would be no child.
  by_cases outside : declaration.LeavesOut key
  · rw [childOf_of_leavesOut outside] at given
    cases given
  · rw [childOf_of_not_leavesOut outside] at given
    exact ⟨nativeChild_eq_ok_iff.mp given, outside⟩

/-- Declared formatters are steady. -/
theorem Formatter.IsDeclared.steady {formatter : Formatter} (declared : formatter.IsDeclared)
    (stops : List RecordedStop) : formatter.Steady stops := by
  obtain ⟨declaration, rfl⟩ := declared
  refine ⟨fun _ _ _ _ _ => rfl, fun _ _ cursor value first later within nothing => ?_,
    fun _ _ cursor value key child given => ?_⟩
  · -- A declared formatter returns as the native one does.
    change declaration.childOf _ _ _ = .ok none at nothing ⊢
    by_cases outside : declaration.LeavesOut (.position later)
    · exact Declaration.childOf_of_leavesOut outside
    · -- What is left out at the first position is left out at the later one.
      have before : ¬ declaration.LeavesOut (.position first) :=
        fun ⟨size, fixed, beyond⟩ => outside ⟨size, fixed, Nat.le_trans beyond within⟩
      rw [Declaration.childOf_of_not_leavesOut before] at nothing
      rw [Declaration.childOf_of_not_leavesOut outside]
      exact nativeChild_eq_ok_iff.mpr
        (Replay.child_ended within (nativeChild_eq_ok_iff.mp nothing))
  · exact Replay.reports_of_child (Declaration.child_of_childOf given).1

end Native

namespace Inquiry

variable {inquiry : Inquiry} {provider : Provider} {value : Value}

/-- From a declared formatter a child is what the declaration makes of the reported one. -/
theorem child_declared (name : String) (declaration : Declaration) (key : ChildKey)
    (ledger : Ledger) : (inquiry.child ⟨.user name, declaration.formatter⟩ value key ledger).1 =
      declaration.childOf inquiry.replay value key := rfl

/-- The answers for the positions of a value, if no call has been made yet. -/
def answersOf (inquiry : Inquiry) (provider : Provider) (value : Value) : ChildAnswers :=
  fun index => (inquiry.child provider value (.position index) .empty).1

variable (steady : provider.formatter.Steady inquiry.replay.stops)

include steady

/-- A steady formatter gives the same child whatever has been counted. -/
theorem child_steady (key : ChildKey) (ledger other : Ledger) :
    (inquiry.child provider value key ledger).1 = (inquiry.child provider value key other).1 := by
  -- The history is all that the answer could take from the ledger.
  simp only [child]
  rw [steady.unaffected ledger.history other.history inquiry.replay.cursor]

/-- The answers of a steady formatter are those of any time. -/
theorem answers_steady : inquiry.Answers provider value (inquiry.answersOf provider value) :=
  fun _ ledger => child_steady steady _ ledger .empty

/-- Behind the end of a steady formatter there is nothing. -/
theorem endForGood_steady : (inquiry.answersOf provider value).EndForGood :=
  fun first later within nothing => steady.ended _ _ _ _ first later within nothing

/-- A steady formatter hands out reported values only. -/
theorem reports_steady {key : ChildKey} {ledger : Ledger} {child : Value}
    (given : (inquiry.child provider value key ledger).1 = .ok (some child)) :
    inquiry.replay.Reports child :=
  steady.reported _ _ _ _ _ _ given

end Inquiry

end Inspection
