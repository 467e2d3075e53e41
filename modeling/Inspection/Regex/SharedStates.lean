import Std.Data.HashMap
import Inspection.Regex.Footprint
import Inspection.Text.Utf8

/-!
A set is built from states for its ranges of bytes, and equal states are built once.

There is one place to remember a state for each value of a hash, and a later state takes the place
of an earlier one. So whether a state is shared depends on the numbers of the states before it.
-/

namespace Inspection.Regex

/-- A range of bytes leads to the state with a number. -/
structure ByteLink where
  range : Text.ByteRange
  target : Nat
  deriving DecidableEq, Repr, Inhabited

/-- A hash with one more number mixed in. -/
def mixed (hash word : UInt64) : UInt64 := (hash ^^^ word) * 0x100000001B3

/-- A hash before anything is mixed in. -/
def unmixed : UInt64 := 0xCBF29CE484222325

/-- How the states of a set are shared. -/
structure Sharing where
  /-- The number of places to remember a state in. -/
  places : Nat
  /-- The hash of a state. -/
  hash : List ByteLink → UInt64
  /-- The room that the links of a state take. -/
  room : List ByteLink → Nat

namespace Sharing

/-- A state of the automaton that reads forward holds several ranges. -/
def forward : Sharing where
  places := 10000
  hash links := links.foldl
    (fun hash link =>
      mixed (mixed (mixed hash link.range.first.toUInt64) link.range.last.toUInt64)
        link.target.toUInt64)
    unmixed
  room links := links.length * 8

/-- A state of the automaton that reads backward holds one range. -/
def backward : Sharing where
  places := 1000
  hash links := links.foldl
    (fun hash link =>
      mixed (mixed (mixed hash link.target.toUInt64) link.range.first.toUInt64)
        link.range.last.toUInt64)
    unmixed
  room _ := 0

/-- The place to remember a state in. -/
def place (sharing : Sharing) (links : List ByteLink) : Nat :=
  (sharing.hash links).toNat % sharing.places

end Sharing

/-- What has been built, and the states of one set that are remembered. -/
structure SharedStates where
  footprint : Footprint
  /-- The links and the number of the state in each place. -/
  remembered : Std.HashMap Nat (List ByteLink × Nat)

namespace SharedStates

/-- The number of the state with some links, which is built unless it is remembered. -/
def state? (sharing : Sharing) (shared : SharedStates) (links : List ByteLink) :
    Option (Nat × SharedStates) :=
  let place := sharing.place links
  let built := do
    let number := shared.footprint.states
    let footprint ← shared.footprint.grow? 1 (sharing.room links)
    return (number, ⟨footprint, shared.remembered.insert place (links, number)⟩)
  match shared.remembered[place]? with
  | some (known, number) => if known = links then some (number, shared) else built
  | none => built

/-- Gathers the sequences that follow each other and begin with the same range. -/
def byFirstRange : List (List Text.ByteRange) → List (Text.ByteRange × List (List Text.ByteRange))
  | [] => []
  | [] :: rest => byFirstRange rest
  | (first :: others) :: rest =>
    match byFirstRange rest with
    | [] => [(first, [others])]
    | (next, tails) :: groups =>
      if first = next then (first, others :: tails) :: groups
      else (first, [others]) :: (next, tails) :: groups

/-- The state from which some sequences, of at most so many bytes, lead to a last state. -/
def reading? (last : Nat) :
    Nat → List (List Text.ByteRange) → SharedStates → Option (Nat × SharedStates)
  | 0, _, shared | _, [] :: _, shared => some (last, shared)
  | length + 1, sequences, shared => do
    let (links, shared) ← (byFirstRange sequences).foldlM
      (fun (links, shared) (range, tails) => do
        let (target, shared) ← reading? last length tails shared
        return (links ++ [⟨range, target⟩], shared))
      (([] : List ByteLink), shared)
    shared.state? .forward links

/-- The state that reads a sequence backward, its last byte first, and leads to a last state. -/
def readingBack? (last : Nat) (sequence : List Text.ByteRange) (shared : SharedStates) :
    Option (Nat × SharedStates) :=
  sequence.foldlM
    (fun (target, shared) range => SharedStates.state? .backward shared [⟨range, target⟩])
    (last, shared)

end SharedStates

namespace Builder

/-- Builds a set for reading forward: its last state comes first. -/
def setForward (letters : Text.CharSet) : Builder := fun footprint => do
  let last := footprint.states
  let (_, shared) ←
    SharedStates.reading? last 4 letters.byteSequences ⟨← footprint.grow? 1 0, ∅⟩
  return ⟨shared.footprint, false⟩

/-- Builds a set for reading backward: a fork, its last state and a way out per sequence. -/
def setBackward (letters : Text.CharSet) : Builder := fun footprint => do
  let last := footprint.states + 1
  let shared ← letters.byteSequences.foldlM
    (fun (shared : SharedStates) sequence => do
      let (_, shared) ← shared.readingBack? last sequence
      return { shared with footprint := ← shared.footprint.grow? 0 4 })
    ⟨← footprint.grow? 2 0, ∅⟩
  return ⟨shared.footprint, false⟩

end Builder

end Inspection.Regex
