import Inspection.Children.Enumeration
import Inspection.Proofs.Children.Handle
import Inspection.Proofs.Children.Window
import Inspection.Proofs.Formatter.Ledger

/-! Serving a window of children changes a handle only by what the supplier answered. -/

namespace Inspection

namespace Handle

section invariants

variable (inquiry : Inquiry) (provider : Provider) (value : Value)

/-- A remembered child is served without a call. -/
theorem fetch_of_remembered {handle : Handle} {index : Nat} {child : Value} (ledger : Ledger)
    (found : handle.child? index = some child) :
    handle.fetch inquiry provider value index ledger = ⟨.ok (some child), handle, ledger⟩ := by
  -- The remembered child is looked up before anything is asked.
  simp only [fetch, found]

/-- A child that is not remembered is asked for once. -/
theorem fetch_of_unknown {handle : Handle} {index : Nat} (ledger : Ledger)
    (missing : handle.child? index = none) :
    handle.fetch inquiry provider value index ledger =
      ⟨(inquiry.child provider value (.position index) ledger).1,
        handle.learn index (inquiry.child provider value (.position index) ledger).1,
        (inquiry.child provider value (.position index) ledger).2⟩ := by
  -- The call is made, and what it answers is what the handle learns from.
  simp only [fetch, missing]
  rcases inquiry.child provider value (.position index) ledger with ⟨answer, asked⟩
  -- The three answers differ in what the handle keeps.
  rcases answer with error | _ | child <;> rfl

/-- What holds of a handle and a ledger while children are fetched and where they end. -/
structure Maintained (Holds : Handle → Ledger → Prop) : Prop where
  fetch : ∀ index handle ledger, Holds handle ledger →
    Holds (handle.fetch inquiry provider value index ledger).handle
      (handle.fetch inquiry provider value index ledger).ledger
  ended : ∀ index handle ledger, Holds handle ledger →
    (handle.fetch inquiry provider value index ledger).answer = .ok none →
    Holds { (handle.fetch inquiry provider value index ledger).handle with namedEnd := some index }
      (handle.fetch inquiry provider value index ledger).ledger

variable {inquiry provider value} {Holds : Handle → Ledger → Prop}

/-- Serving by position maintains what each fetch maintains. -/
theorem serveIndexed_maintained (kept : Maintained inquiry provider value Holds)
    (count remaining index : Nat) {handle : Handle} {ledger : Ledger}
    (holds : Holds handle ledger) :
    Holds (serveIndexed inquiry provider value count remaining index handle ledger).handle
      (serveIndexed inquiry provider value count remaining index handle ledger).ledger := by
  -- One position is fetched, and the rest are served from what that leaves.
  induction remaining generalizing index handle ledger with
  | zero => exact holds
  | succ further ih => exact ih (index + 1) (kept.fetch index handle ledger holds)

/-- Serving by name maintains what each fetch maintains, also where the children end. -/
theorem serveNamed_maintained (kept : Maintained inquiry provider value Holds)
    (remaining index : Nat) {handle : Handle} {ledger : Ledger} (holds : Holds handle ledger) :
    Holds (serveNamed inquiry provider value remaining index handle ledger).handle
      (serveNamed inquiry provider value remaining index handle ledger).ledger := by
  -- The induction follows the requests left; a remembered end cuts it short.
  induction remaining generalizing index handle ledger with
  | zero => exact holds
  | succ further ih =>
    have fetched := kept.fetch index handle ledger holds
    have ended := kept.ended index handle ledger holds
    simp only [serveNamed]
    split
    · exact holds
    · -- Only an answer without a child marks the end; any other goes on.
      cases answer : (handle.fetch inquiry provider value index ledger).answer with
      | error error => exact ih (index + 1) fetched
      | ok child =>
        cases child with
        | none => exact ended answer
        | some child => exact ih (index + 1) fetched

/-- A window leaves what its fetches maintain, but for the record of the window itself. -/
theorem enumerate_maintained (kept : Maintained inquiry provider value Holds) {handle : Handle}
    (target : handle.target = .value value) (kind : ChildrenKind) (window : Window)
    (maxNamed : Nat) {ledger : Ledger} (holds : Holds (handle.markClassified kind) ledger) :
    ∃ served, Holds served
        (handle.enumerate kind provider window maxNamed inquiry ledger).ledger ∧
      (handle.enumerate kind provider window maxNamed inquiry ledger).handle =
        served.recordWindow kind := by
  -- The kind decides how children are served, and both ways maintain the same.
  simp only [enumerate, target]
  refine ⟨_, ?_, rfl⟩
  cases kind with
  | indexed count => exact serveIndexed_maintained kept _ _ _ holds
  | named | undeclared => exact serveNamed_maintained kept _ _ holds

/-- The locals of a frame are not enumerated. -/
theorem enumerate_of_locals {handle : Handle} {frame : Nat} (target : handle.target = .locals frame)
    (kind : ChildrenKind) (provider : Provider) (window : Window) (maxNamed : Nat)
    (inquiry : Inquiry) (ledger : Ledger) :
    handle.enumerate kind provider window maxNamed inquiry ledger = ⟨[], handle, ledger⟩ := by
  simp only [enumerate, target]

/-- Fetching a child keeps the target and asks for no size. -/
theorem fetch_frame (inquiry : Inquiry) (provider : Provider) (value : Value) (index : Nat)
    (handle : Handle) (ledger : Ledger) :
    (handle.fetch inquiry provider value index ledger).handle.target = handle.target ∧
      ledger.GrowsWithoutSize (handle.fetch inquiry provider value index ledger).ledger := by
  -- A fetch makes at most one call, and that is for a child.
  cases found : handle.child? index with
  | some child =>
    rw [fetch_of_remembered inquiry provider value ledger found]
    exact ⟨rfl, .of_history_eq rfl⟩
  | none =>
    rw [fetch_of_unknown inquiry provider value ledger found]
    exact ⟨learn_target _ _ _, .of_call rfl (inquiry.history_child provider value ledger _)⟩

/-- Serving a window keeps the target of the handle and asks for no size. -/
theorem enumerate_frame (handle : Handle) (kind : ChildrenKind) (provider : Provider)
    (window : Window) (maxNamed : Nat) (inquiry : Inquiry) (ledger : Ledger) :
    (handle.enumerate kind provider window maxNamed inquiry ledger).handle.target = handle.target ∧
      ledger.GrowsWithoutSize
        (handle.enumerate kind provider window maxNamed inquiry ledger).ledger := by
  -- Nothing is served from the locals of a frame; for a value this is maintained by each fetch.
  cases target : handle.target with
  | locals frame =>
    rw [enumerate_of_locals target]
    exact ⟨target, .of_history_eq rfl⟩
  | value value =>
    -- Each fetch keeps the target and adds calls that ask for no size.
    have kept : Maintained inquiry provider value fun served later =>
        served.target = .value value ∧ ledger.GrowsWithoutSize later := by
      constructor
      · intro index served later holds
        have frame := fetch_frame inquiry provider value index served later
        exact ⟨frame.1.trans holds.1, holds.2.trans frame.2⟩
      · intro index served later holds _
        have frame := fetch_frame inquiry provider value index served later
        exact ⟨frame.1.trans holds.1, holds.2.trans frame.2⟩
    obtain ⟨served, holds, recorded⟩ := enumerate_maintained kept target kind window maxNamed
      ⟨(markClassified_target handle kind).trans target, .of_history_eq rfl⟩
    rw [recorded]
    exact ⟨holds.1, holds.2⟩

end invariants

end Handle

end Inspection
