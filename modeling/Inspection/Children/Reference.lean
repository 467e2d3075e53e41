/-! A reference packs the generation of a stop and the place of a handle into one machine word. -/

namespace Inspection.Reference

/-- The low bits of a reference hold the handle's place plus one. -/
def slotBits : Int64 := 20

/-- The largest number that the low bits hold. -/
def slotMask : Int64 := 0xFFFFF

/-- The largest generation: eleven bits keep every reference below two to the thirty-one. -/
def generationMask : UInt32 := 0x7FF

/-- The word for a handle's place in a generation, unless the place is too large. -/
def encode (generation : UInt32) (slot : UInt64) : Option Int64 :=
  -- Places are counted from one, so that no word is zero.
  let tagged := slot.toInt64 + 1
  if slotMask < tagged then none
  else some ((((generation &&& generationMask).toUInt64.toInt64) <<< slotBits) ||| tagged)

/-- The generation and place packed into a word; the generation keeps thirty-two bits. -/
def decode (reference : Int64) : Option (UInt32 × UInt64) :=
  -- Clients send signed numbers, and zero says that there is no reference.
  if reference ≤ 0 then none
  else
    let tagged := reference &&& slotMask
    if tagged = 0 then none
    else some ((reference >>> slotBits).toUInt64.toUInt32, (tagged - 1).toUInt64)

/-- The reference to a handle's place; a place that does not fit has the empty reference. -/
def ofSlot (generation : UInt32) (slot : UInt64) : Int64 := (encode generation slot).getD 0

/--
The machine word for a position in an array.

Arrays end before the largest signed word, so every position in one is a word of its own.
What lies beyond is no position and counts as the last of them.
-/
def slotAt (position : Nat) : UInt64 := UInt64.ofNat (min position 0x7FFFFFFFFFFFFFFE)

/-- The generation after a stop: a cycle of eleven bits that leaves out zero. -/
def nextGeneration (generation : UInt32) : UInt32 :=
  -- The generation is cut to its bits before it is counted on.
  let next := (generation + 1) &&& generationMask
  if next = 0 then 1 else next

end Inspection.Reference
