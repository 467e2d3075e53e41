import Inspection.Formatter.Budget
import Inspection.Formatter.Ledger

/-! An invocation runs a formatter call under the budget and enters it in the ledger. -/

namespace Inspection

/-- What formatter calls are made against. -/
structure Inquiry where
  replay : Replay
  budget : CallBudget

namespace Inquiry

/-- The native presentation runs without a limit. -/
def budgetFor (inquiry : Inquiry) (provider : Provider) : CallBudget :=
  if provider.isNative then .unbounded else inquiry.budget

/-- Asks for the number of children. -/
def size (inquiry : Inquiry) (provider : Provider) (value : Value) (ledger : Ledger) :
    Except FormatterError Nat × Ledger :=
  -- The query is counted before it is made, so one that never returns counts as well.
  let counted := ledger.countSize provider.source.name value.type.name
  let answer := (inquiry.budgetFor provider).run .size
    (provider.formatter.size ledger.history inquiry.replay value)
  (answer, counted.finish (.size provider.source value answer))

/-- Asks for one child. -/
def child (inquiry : Inquiry) (provider : Provider) (value : Value) (key : ChildKey)
    (ledger : Ledger) : Except FormatterError (Option Value) × Ledger :=
  -- The request is counted before it is made, as a size query is.
  let counted := ledger.countChild provider.source.name
  let answer := (inquiry.budgetFor provider).run .child
    (provider.formatter.child ledger.history inquiry.replay value key)
  (answer, counted.finish (.child provider.source value key answer))

/-- Asks for a summary; a call that fails leaves the value's own rendering in place. -/
def summary (inquiry : Inquiry) (provider : Provider) (value : Value) (ledger : Ledger) :
    Option String × Ledger :=
  -- A summary cannot fail by itself, only outlast the limit or be lost.
  let answer := (inquiry.budgetFor provider).run .summary
    ((provider.formatter.summary ledger.history inquiry.replay value).map .ok)
  let shown := match answer with
    | .ok summary => summary
    | .error _ => none
  (shown, ledger.finish (.summary provider.source value answer))

end Inquiry

end Inspection
