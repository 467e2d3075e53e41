import Inspection.Children.Handle
import Inspection.Children.Window
import Inspection.Formatter.Invocation

/-! Enumeration serves a window of children, asking for each child at most once. -/

namespace Inspection

/-- What became of one position of a window. -/
inductive ChildOutcome where
  | child (child : Value)
  | failed (index : Nat) (error : FormatterError)
  deriving DecidableEq, Repr

/-- What an enumeration changes: the handle and the ledger. -/
structure Enumerated (α : Type) where
  answer : α
  handle : Handle
  ledger : Ledger

namespace Handle

/-- A child that an announced size promises but that the formatter does not give. -/
def missingChild (count index : Nat) : FormatterError :=
  .child (ChildKey.position index).text
    ("formatter reported " ++ toString count ++ " children but returned none here")

/-- The child at a position, remembered or asked for; only a child is remembered. -/
def fetch (inquiry : Inquiry) (provider : Provider) (value : Value) (index : Nat)
    (handle : Handle) (ledger : Ledger) :
    Enumerated (Except FormatterError (Option Value)) :=
  -- What has been fetched once is not asked for again.
  match handle.child? index with
  | some child => ⟨.ok (some child), handle, ledger⟩
  | none =>
    let (answer, ledger) := inquiry.child provider value (.position index) ledger
    match answer with
    | .ok (some child) => ⟨.ok (some child), handle.remember index child, ledger⟩
    -- The end is no child, and an error may pass; both are asked for again.
    | .ok none => ⟨.ok none, handle, ledger⟩
    | .error error => ⟨.error error, handle, ledger⟩

/-- Serves the given number of positions of a value with a known number of children. -/
def serveIndexed (inquiry : Inquiry) (provider : Provider) (value : Value) (count : Nat)
    (remaining index : Nat) (handle : Handle) (ledger : Ledger) :
    Enumerated (List ChildOutcome) :=
  match remaining with
  | 0 => ⟨[], handle, ledger⟩
  | further + 1 =>
    let step := handle.fetch inquiry provider value index ledger
    -- A position without a child is reported, and the rest is served all the same.
    let outcome := match step.answer with
      | .ok (some child) => .child child
      | .ok none => .failed index (missingChild count index)
      | .error error => .failed index error
    let rest := serveIndexed inquiry provider value count further (index + 1) step.handle
      step.ledger
    ⟨outcome :: rest.answer, rest.handle, rest.ledger⟩

/-- Whether enumeration has already run off the end at or before a position. -/
def isPastEnd (handle : Handle) (index : Nat) : Bool :=
  match handle.namedEnd with
  | some bound => decide (bound ≤ index)
  | none => false

/-- Serves at most the given number of positions, stopping where the children end. -/
def serveNamed (inquiry : Inquiry) (provider : Provider) (value : Value)
    (remaining index : Nat) (handle : Handle) (ledger : Ledger) :
    Enumerated (List ChildOutcome) :=
  match remaining with
  | 0 => ⟨[], handle, ledger⟩
  | further + 1 =>
    if handle.isPastEnd index then ⟨[], handle, ledger⟩
    else
      let step := handle.fetch inquiry provider value index ledger
      match step.answer with
      -- The first position without a child is where they end.
      | .ok none => ⟨[], { step.handle with namedEnd := some index }, step.ledger⟩
      | .ok (some child) =>
        let rest := serveNamed inquiry provider value further (index + 1) step.handle step.ledger
        ⟨.child child :: rest.answer, rest.handle, rest.ledger⟩
      | .error error =>
        let rest := serveNamed inquiry provider value further (index + 1) step.handle step.ledger
        ⟨.failed index error :: rest.answer, rest.handle, rest.ledger⟩

/-- Serves a window of children; without a count, named children stop at an upper bound. -/
def enumerate (handle : Handle) (kind : ChildrenKind) (provider : Provider) (window : Window)
    (maxNamed : Nat) (inquiry : Inquiry) (ledger : Ledger) : Enumerated (List ChildOutcome) :=
  match handle.target with
  | .locals _ => ⟨[], handle, ledger⟩
  | .value value =>
    -- The kind is recorded before the first child is asked for.
    let marked := handle.markClassified kind
    let served := match kind with
      | .indexed count =>
        -- With a known number the window is cut to it.
        let (first, last) := window.range count
        serveIndexed inquiry provider value count (last - first) first marked ledger
      | .named | .undeclared =>
        -- Without one the limit keeps an endless formatter from being asked forever.
        let last := addPosition window.start (window.count.getD maxNamed)
        serveNamed inquiry provider value (last - window.start) window.start marked ledger
    ⟨served.answer, served.handle.recordWindow kind, served.ledger⟩

end Handle

end Inspection
