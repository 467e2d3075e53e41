/-!
The room that an automaton takes while it is built, state by state.

A state takes a fixed room, and more for each of its links: a fork for every way out, a state with
several ranges of bytes for every range.
-/

namespace Inspection.Regex

/-- What has been built of an automaton. -/
structure Footprint where
  states : Nat
  /-- The room that links take beyond the states themselves, in bytes. -/
  links : Nat
  deriving DecidableEq, Repr, Inhabited

namespace Footprint

/-- The room in bytes. -/
def size (footprint : Footprint) : Nat := footprint.states * 32 + footprint.links

/-- Two parts of an automaton together. -/
def add (first second : Footprint) : Footprint :=
  ⟨first.states + second.states, first.links + second.links⟩

/-- An automaton may not take more room than this. -/
def limit : Nat := 10 * 0x100000

/-- Adds states and the room of their links, as long as there is room. -/
def grow? (footprint : Footprint) (states links : Nat) : Option Footprint :=
  let grown : Footprint := ⟨footprint.states + states, footprint.links + links⟩
  if grown.size ≤ limit then some grown else none

/-- Adds the link from the end of a piece to its successor; a fork needs room for it. -/
def link? (footprint : Footprint) (fromFork : Bool) : Option Footprint :=
  footprint.grow? 0 (if fromFork then 4 else 0)

end Footprint

/-- A piece of an automaton, just built. -/
structure Piece where
  /-- All that has been built, the piece included. -/
  footprint : Footprint
  /-- The piece ends in a fork, so that going on from it takes one more way out. -/
  endsInFork : Bool

/-- How a piece is built after what has been built before it. -/
abbrev Builder := Footprint → Option Piece

/-- What has been built once a piece is linked to its successor. -/
def Piece.linked? (piece : Piece) : Option Footprint :=
  piece.footprint.link? piece.endsInFork

namespace Builder

/-- Builds states of which the last one is no fork. -/
def states (count links : Nat) : Builder := fun footprint => do
  return ⟨← footprint.grow? count links, false⟩

/-- Builds so many more copies, each linked to the one before it. -/
def moreCopies (builder : Builder) : Nat → Piece → Option Piece
  | 0, piece => some piece
  | count + 1, piece =>
    match builder piece.footprint with
    | none => none
    | some next =>
      match next.footprint.link? piece.endsInFork with
      | none => none
      | some footprint => moreCopies builder count ⟨footprint, next.endsInFork⟩

/-- Builds so many copies one after the other. -/
def copies (builder : Builder) : Nat → Builder
  | 0 => states 1 0
  | count + 1 => fun footprint => do moreCopies builder count (← builder footprint)

/-- Builds so many more copies, each after a fork that also leads past all of them. -/
def optionalCopies (builder : Builder) : Nat → Piece → Option Piece
  | 0, piece => some piece
  | count + 1, piece =>
    match piece.footprint.grow? 1 8 with
    | none => none
    | some forked =>
      match builder forked with
      | none => none
      | some next =>
        match next.footprint.link? piece.endsInFork with
        | none => none
        | some footprint => optionalCopies builder count ⟨footprint, next.endsInFork⟩

/-- Builds a repetition; one whose body always takes a character needs a single fork. -/
def repetition (builder : Builder) (consumes : Bool) (least : Nat) (most : Option Nat) :
    Builder := fun footprint => do
  match least, most with
  | 0, some 1 =>
    let body ← builder (← footprint.grow? 1 0)
    states 1 8 (← body.linked?)
  | 0, none =>
    if consumes then
      let body ← builder (← footprint.grow? 1 0)
      return ⟨← (← body.linked?).grow? 0 4, true⟩
    else
      let body ← builder footprint
      states 3 16 (← body.linked?)
  | least, none =>
    let body ← copies builder least footprint
    return ⟨← (← body.linked?).grow? 1 4, true⟩
  | least, some most =>
    let required ← copies builder least footprint
    if least = most then return required
    else
      let joined ← required.footprint.grow? 1 0
      let last ← optionalCopies builder (most - least) ⟨joined, required.endsInFork⟩
      states 0 0 (← last.linked?)

end Builder

end Inspection.Regex
