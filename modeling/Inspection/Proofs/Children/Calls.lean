import Inspection.Proofs.Children.Demand
import Inspection.Proofs.Children.Run
import Inspection.Proofs.Formatter.Counters

/-! Which calls serving a window makes is told without the ledger that they are entered in. -/

namespace Inspection

namespace Inquiry

variable (inquiry : Inquiry) (provider : Provider) (value : Value)

/-- The size query to a provider after some calls, with what comes back under the budget. -/
def sizeCall (history : List Call) : Call :=
  .size provider.source value ((inquiry.budgetFor provider).run .size
    (provider.formatter.size history inquiry.replay value))

/-- The request to a provider for a child after some calls, with what comes back. -/
def childCall (key : ChildKey) (history : List Call) : Call :=
  .child provider.source value key ((inquiry.budgetFor provider).run .child
    (provider.formatter.child history inquiry.replay value key))

/-- The call to a provider for a summary after some calls, with what comes back. -/
def summaryCall (history : List Call) : Call :=
  .summary provider.source value ((inquiry.budgetFor provider).run .summary
    ((provider.formatter.summary history inquiry.replay value).map .ok))

/-- Asking for a size enters the query, whatever comes back. -/
theorem size_ledger (ledger : Ledger) : (inquiry.size provider value ledger).2 =
    ledger.enterAll [inquiry.sizeCall provider value ledger.history] := rfl

/-- Asking for a child enters the request, whatever comes back. -/
theorem child_ledger (key : ChildKey) (ledger : Ledger) :
    (inquiry.child provider value key ledger).2 =
      ledger.enterAll [inquiry.childCall provider value key ledger.history] := rfl

/-- Asking for a summary enters the call, whatever comes back. -/
theorem summary_ledger (ledger : Ledger) : (inquiry.summary provider value ledger).2 =
    ledger.enterAll [inquiry.summaryCall provider value ledger.history] := rfl

end Inquiry

namespace Handle

variable (inquiry : Inquiry) (provider : Provider) (value : Value)

/-- The call that fetching a child makes; for a child that is remembered there is none. -/
def fetchCalls (index : Nat) (handle : Handle) (history : List Call) : List Call :=
  match handle.child? index with
  | some _ => []
  | none => [inquiry.childCall provider value (.position index) history]

/-- The calls that serving a run of positions makes. -/
def runCalls (kind : ChildrenKind) (remaining index : Nat) (handle : Handle) (ledger : Ledger) :
    List Call :=
  match remaining with
  | 0 => []
  | further + 1 =>
    if handle.stopsAt kind index then []
    else
      let step := handle.fetch inquiry provider value index ledger
      handle.fetchCalls inquiry provider value index ledger.history ++
        -- Where an answer shows nothing the children end, and so do the calls.
        match kind.outcome? index step.answer with
        | none => []
        | some _ => runCalls kind further (index + 1) step.handle step.ledger

/-- The calls that serving a window makes. -/
def windowCalls (handle : Handle) (kind : ChildrenKind) (provider : Provider) (window : Window)
    (maxNamed : Nat) (inquiry : Inquiry) (ledger : Ledger) : List Call :=
  match handle.target with
  | .locals _ => []
  | .value value =>
    runCalls inquiry provider value kind (window.run kind maxNamed).2
      (window.run kind maxNamed).1 (handle.markClassified kind) ledger

variable {inquiry provider value} {handle : Handle} {ledger : Ledger}

/-- Fetching a child enters the call that it makes. -/
theorem fetch_ledger (index : Nat) (handle : Handle) (ledger : Ledger) :
    (handle.fetch inquiry provider value index ledger).ledger =
      ledger.enterAll (handle.fetchCalls inquiry provider value index ledger.history) := by
  -- A remembered child is looked up, and any other is asked for.
  cases found : handle.child? index with
  | some child =>
    rw [fetch_of_remembered inquiry provider value ledger found]
    simp only [fetchCalls, found]
    rfl
  | none =>
    rw [fetch_of_unknown inquiry provider value ledger found]
    simp only [fetchCalls, found]
    rfl

/-- Serving a run of positions enters the calls that it makes. -/
theorem serveRun_ledger (kind : ChildrenKind) (remaining index : Nat) (handle : Handle)
    (ledger : Ledger) :
    (serveRun inquiry provider value kind remaining index handle ledger).ledger =
      ledger.enterAll (runCalls inquiry provider value kind remaining index handle ledger) := by
  -- The induction follows the run: it stops, ends, or goes on after one fetch.
  induction remaining, index, handle, ledger using
    serveRun_induct inquiry provider value kind with
  | zero index handle ledger =>
    rw [serveRun_zero]
    rfl
  | stopped further index handle ledger stops =>
    rw [serveRun_of_stops stops]
    simp only [runCalls, stops, if_true]
    rfl
  | ended further index handle ledger onward ended =>
    -- The fetch that finds the end is a call as well.
    rw [serveRun_of_end onward ended]
    simp only [runCalls, onward, ended, Bool.false_eq_true, if_false, List.append_nil]
    exact fetch_ledger index handle ledger
  | outcome further index handle ledger outcome onward shown ih =>
    -- The call of the fetch comes before those of the rest.
    rw [serveRun_of_outcome onward shown]
    simp only [runCalls, onward, shown, Bool.false_eq_true, if_false, Ledger.enterAll_append]
    rw [ih, fetch_ledger]

/-- Serving a window enters the calls that it makes. -/
theorem enumerate_ledger (handle : Handle) (kind : ChildrenKind) (provider : Provider)
    (window : Window) (maxNamed : Nat) (inquiry : Inquiry) (ledger : Ledger) :
    (handle.enumerate kind provider window maxNamed inquiry ledger).ledger =
      ledger.enterAll (handle.windowCalls kind provider window maxNamed inquiry ledger) := by
  -- Locals are not enumerated, and the children of a value are served as one run.
  cases target : handle.target with
  | locals frame =>
    rw [enumerate_of_locals target]
    simp only [windowCalls, target]
    rfl
  | value value =>
    rw [enumerate_of_value target]
    simp only [windowCalls, target]
    exact serveRun_ledger ..

/-- Fetching a child makes a call only where the child is not remembered. -/
theorem mem_fetchCalls {index : Nat} {history : List Call} {call : Call}
    (member : call ∈ handle.fetchCalls inquiry provider value index history) :
    handle.child? index = none ∧ call.key? = some (.position index) := by
  -- Looking up a child makes no call.
  cases found : handle.child? index with
  | some child => simp [fetchCalls, found] at member
  | none =>
    simp only [fetchCalls, found, List.mem_singleton] at member
    rw [member]
    exact ⟨rfl, rfl⟩

/-- Every call of a run is a request for a child that is not remembered. -/
theorem mem_runCalls (kind : ChildrenKind) (remaining index : Nat) (handle : Handle)
    (ledger : Ledger) :
    ∀ call ∈ runCalls inquiry provider value kind remaining index handle ledger,
      ∃ position, handle.child? position = none ∧ call.key? = some (.position position) := by
  -- A child that is unknown after a fetch was unknown before it.
  induction remaining, index, handle, ledger using
    serveRun_induct inquiry provider value kind with
  | zero index handle ledger => exact List.forall_mem_nil _
  | stopped further index handle ledger stops =>
    simp only [runCalls, stops, if_true]
    exact List.forall_mem_nil _
  | ended further index handle ledger onward ended =>
    -- Where the children end there is the one call that finds the end.
    intro call member
    simp only [runCalls, onward, ended, Bool.false_eq_true, if_false, List.append_nil] at member
    exact ⟨index, mem_fetchCalls member⟩
  | outcome further index handle ledger outcome onward shown ih =>
    intro call member
    simp only [runCalls, onward, shown, Bool.false_eq_true, if_false] at member
    -- The call is that of the first fetch or one of the rest.
    rcases List.mem_append.mp member with first | later
    · exact ⟨index, mem_fetchCalls first⟩
    · obtain ⟨position, unknown, asks⟩ := ih call later
      exact ⟨position, child?_of_fetch unknown, asks⟩

/-- Every call of a window is a request for a child that is not remembered. -/
theorem mem_windowCalls {kind : ChildrenKind} {window : Window} {maxNamed : Nat} {call : Call}
    (member : call ∈ handle.windowCalls kind provider window maxNamed inquiry ledger) :
    ∃ position, handle.child? position = none ∧ call.key? = some (.position position) := by
  -- Marking the handle as classified forgets no child.
  cases target : handle.target with
  | locals frame => simp [windowCalls, target] at member
  | value value =>
    simp only [windowCalls, target] at member
    obtain ⟨position, unknown, asks⟩ := mem_runCalls _ _ _ _ _ call member
    rw [markClassified_child?] at unknown
    exact ⟨position, unknown, asks⟩

end Handle

end Inspection
