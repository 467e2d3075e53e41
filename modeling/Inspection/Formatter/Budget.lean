import Inspection.Formatter

/-! A time limit turns a call that outlasts it or dies into an error of that call alone. -/

namespace Inspection

/-- How long one call may take. -/
structure CallBudget where
  /-- The limit in milliseconds, if there is one. -/
  limit? : Option Nat
  deriving DecidableEq, Repr, Inhabited

namespace CallBudget

/-- No limit. -/
def unbounded : CallBudget := ⟨none⟩

/-- A limit in milliseconds, where zero means none. -/
def ofMilliseconds (limit : Nat) : CallBudget :=
  if limit = 0 then unbounded else ⟨some limit⟩

/-- The answer of a call under the budget. -/
def run (budget : CallBudget) (operation : Operation)
    (attempt : Attempt (Except FormatterError α)) : Except FormatterError α :=
  match attempt, budget.limit? with
  | .returns answer, _ => answer
  -- Without a limit the call is made in place and waited for, and no helper can be lost.
  | .outlasts answer, none | .lost answer, none => answer
  | .outlasts _, some limit => .error (.timeout operation limit)
  | .lost _, some _ => .error (.aborted operation)

end CallBudget

end Inspection
