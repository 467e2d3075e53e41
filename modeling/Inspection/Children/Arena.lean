import Inspection.Children.Handle
import Inspection.Children.Reference

/-! The arena issues one reference per target and drops all of them when the stop ends. -/

namespace Inspection

/-- The handles of the current stop. -/
structure Arena where
  generation : UInt32
  handles : Array Handle
  /-- The place of each value's handle. -/
  byValue : List (ValueId × Nat)
  /-- The place of each frame's handle. -/
  byFrame : List (Nat × Nat)

namespace Arena

/-- The first generation has no handles yet. -/
def empty : Arena := ⟨1, #[], [], []⟩

/-- The number of handles. -/
def size (arena : Arena) : Nat := arena.handles.size

/-- The reference to a machine word as a place, taken as handed in. -/
def reference (arena : Arena) (slot : UInt64) : Int64 := Reference.ofSlot arena.generation slot

/-- The reference to the handle at a place. -/
def referenceAt (arena : Arena) (place : Nat) : Int64 := arena.reference (Reference.slotAt place)

/-- The place of a value's handle. -/
def slotOf (arena : Arena) (id : ValueId) : Option Nat := arena.byValue.lookup id

/-- The place of a value's handle, made on first use. -/
def slotFor (arena : Arena) (value : Value) : Nat × Arena :=
  match arena.slotOf value.id with
  | some slot => (slot, arena)
  -- A new handle stands behind all the others, so its place is their number.
  | none => (arena.size,
    { arena with
      handles := arena.handles.push (.fresh (.value value))
      byValue := (value.id, arena.size) :: arena.byValue })

/-- The place of the handle for a frame's locals, made on first use. -/
def slotForLocals (arena : Arena) (frame : Nat) : Nat × Arena :=
  match arena.byFrame.lookup frame with
  | some slot => (slot, arena)
  -- Frames are looked up apart from values, though their handles stand in one array.
  | none => (arena.size,
    { arena with
      handles := arena.handles.push (.fresh (.locals frame))
      byFrame := (frame, arena.size) :: arena.byFrame })

/-- The reference to a frame's locals. -/
def locals (arena : Arena) (frame : Nat) : Int64 × Arena :=
  let (slot, arena) := arena.slotForLocals frame
  (arena.referenceAt slot, arena)

/-- The place a reference leads to, if it belongs to this generation. -/
def resolve (arena : Arena) (reference : Int64) : Option Nat :=
  match Reference.decode reference with
  | some (generation, slot) =>
    -- A reference carries no more of the generation than the mask leaves.
    if generation = arena.generation &&& Reference.generationMask ∧ slot.toNat < arena.size then
      some slot.toNat
    else none
  | none => none

/-- The handle at a place. -/
def handle? (arena : Arena) (slot : Nat) : Option Handle := arena.handles[slot]?

/-- Replaces the handle at a place. -/
def setHandle (arena : Arena) (slot : Nat) (handle : Handle) : Arena :=
  -- A place that is not taken is left as it is.
  { arena with handles := arena.handles.setIfInBounds slot handle }

/-- Drops every handle and begins the next generation. -/
def invalidate (arena : Arena) : Arena :=
  ⟨Reference.nextGeneration arena.generation, #[], [], []⟩

end Arena

end Inspection
