/-! A window selects a run of children; positions are machine words and saturate. -/

namespace Inspection

/-- The largest position and the largest count. -/
def maxPosition : Nat := 0xFFFFFFFFFFFFFFFF

/-- The sum of two positions, stopping at the largest one. -/
def addPosition (start count : Nat) : Nat := min (start + count) maxPosition

/-- A run of children: from a start, either a number of them or all that follow. -/
structure Window where
  start : Nat
  count : Option Nat
  deriving DecidableEq, Repr, Inhabited

namespace Window

/-- Every child. -/
def all : Window := ⟨0, none⟩

/-- A window as a client asks for it: numbers that are not positive count as absent. -/
def ofProtocol (start count : Option Int) : Window where
  start := ((start.filter (0 < ·)).map Int.toNat).getD 0
  count := (count.filter (0 < ·)).map Int.toNat

/-- The first position and the end of the window among a number of children. -/
def range (window : Window) (length : Nat) : Nat × Nat :=
  (min window.start length,
    match window.count with
    | some count => min (addPosition window.start count) length
    | none => length)

/-- The elements of a list that the window shows. -/
def select (window : Window) (elements : List α) : List α :=
  -- Dropping comes after taking, so a start past the end shows nothing.
  let (first, last) := window.range elements.length
  (elements.take last).drop first

end Window

end Inspection
