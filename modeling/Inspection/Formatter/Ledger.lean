import Inspection.Formatter

/-! The ledger counts every call per formatter name and keeps the calls themselves beside it. -/

namespace Inspection

/-- How often a formatter was called. -/
structure CallCounts where
  size : Nat
  child : Nat
  timedOut : Nat
  deriving DecidableEq, Repr, Inhabited

/-- No calls. -/
def CallCounts.zero : CallCounts := ⟨0, 0, 0⟩

/-- Counts per formatter name, in the order of the names. -/
abbrev Tally := List (String × CallCounts)

namespace Tally

/-- The counts of one formatter. -/
def counts (tally : Tally) (name : String) : CallCounts :=
  (tally.lookup name).getD .zero

/-- Changes the counts of one formatter, entering it in its place if it is new. -/
def update (tally : Tally) (name : String) (change : CallCounts → CallCounts) : Tally :=
  match tally with
  | [] => [(name, change .zero)]
  | (other, counts) :: rest =>
    -- The list stays in the order of the names.
    if other = name then (other, change counts) :: rest
    else if name < other then (name, change .zero) :: (other, counts) :: rest
    else (other, counts) :: update rest name change

end Tally

/-- The counters of one session and the calls behind them. -/
structure Ledger where
  tally : Tally
  /-- Type names whose size was asked for, in the order of the calls. -/
  sizeLog : List String
  /-- The calls since the counters were last set to zero, newest first. -/
  recent : List Call
  /-- The calls before that, newest first. -/
  earlier : List Call

namespace Ledger

/-- A ledger before the first call. -/
def empty : Ledger := ⟨[], [], [], []⟩

/-- Every call made so far, newest first. -/
def history (ledger : Ledger) : List Call := ledger.recent ++ ledger.earlier

/-- Counts a size query. -/
def countSize (ledger : Ledger) (name typeName : String) : Ledger :=
  { ledger with
    tally := ledger.tally.update name fun counts => { counts with size := counts.size + 1 }
    sizeLog := ledger.sizeLog ++ [typeName] }

/-- Counts a request for a child. -/
def countChild (ledger : Ledger) (name : String) : Ledger :=
  { ledger with
    tally := ledger.tally.update name fun counts => { counts with child := counts.child + 1 } }

/-- Counts a call that was given up at its time limit. -/
def countTimeout (ledger : Ledger) (name : String) : Ledger :=
  { ledger with
    tally := ledger.tally.update name fun counts =>
      { counts with timedOut := counts.timedOut + 1 } }

/-- Keeps a finished call, counting it as timed out if it was. -/
def finish (ledger : Ledger) (call : Call) : Ledger :=
  -- Only now it is known whether the call was given up.
  let counted := if call.timedOut then ledger.countTimeout call.source.name else ledger
  { counted with recent := call :: counted.recent }

/-- Sets every counter to zero. -/
def reset (ledger : Ledger) : Ledger := ⟨[], [], [], ledger.history⟩

/-- The counters of one formatter. -/
def counts (ledger : Ledger) (name : String) : CallCounts := ledger.tally.counts name

/-- The size log as a list of quoted type names. -/
def sizeLogText (ledger : Ledger) : String :=
  "[" ++ String.intercalate ", " (ledger.sizeLog.map fun name => "'" ++ name ++ "'") ++ "]"

end Ledger

end Inspection
