import Inspection.Regex.SharedStates
import Inspection.Regex.WordStates
import Inspection.Regex.Assembly

/-!
A program is run by two automata, one that reads forward and one that reads backward.

Neither may take more room than the limit. The automata are not built here: their size is.
-/

namespace Inspection.Regex

/-- The ways to read a text. -/
inductive Direction where
  | forward
  | backward
  deriving DecidableEq, Repr, Inhabited

namespace Program

mutual

/--
The fewest characters that a match takes.

It is unknown where the program holds a set without members.
-/
def fewest? : Program → Option Nat
  | empty | look _ => some 0
  | text letters => some letters.length
  | set letters _ => if letters.ranges.isEmpty then none else some 1
  | repetition body least _ _ => body.fewest?.map (least * ·)
  | capture _ body => body.fewest?
  | sequence parts => fewestInSequence? parts
  | choice branches => fewestOfAny? branches

/-- The fewest characters that matches of all programs together take. -/
def fewestInSequence? : List Program → Option Nat
  | [] => some 0
  | part :: rest => do return (← part.fewest?) + (← fewestInSequence? rest)

/-- The fewest characters that a match of any of the programs takes. -/
def fewestOfAny? : List Program → Option Nat
  | [] => none
  | [branch] => branch.fewest?
  | branch :: rest => do return min (← branch.fewest?) (← fewestOfAny? rest)

end

/-- Whether every match takes a character. -/
def consumes (program : Program) : Bool := program.fewest?.any (0 < ·)

mutual

/-- Whether a match shows at its beginning, or at its end, that a condition holds there. -/
def requires (condition : Look) (direction : Direction) : Program → Bool
  | look other => other == condition
  | repetition body least _ _ => least != 0 && body.requires condition direction
  | capture _ body => body.requires condition direction
  | sequence parts =>
    match direction with
    | .forward => firstRequires condition parts
    | .backward => lastRequires condition parts
  | choice branches => allRequire condition direction branches
  | empty | text _ | set .. => false

/-- Whether a condition is required before any of the programs takes a character. -/
def firstRequires (condition : Look) : List Program → Bool
  | [] => false
  | part :: rest =>
    part.requires condition .forward || (part.isAlwaysEmpty && firstRequires condition rest)

/-- Whether a condition is required after all of the programs have taken their characters. -/
def lastRequires (condition : Look) : List Program → Bool
  | [] => false
  | part :: rest =>
    lastRequires condition rest
      || (areAlwaysEmpty rest && part.requires condition .backward)

/-- Whether every program of a list requires a condition. -/
def allRequire (condition : Look) (direction : Direction) : List Program → Bool
  | [] => true
  | branch :: rest => branch.requires condition direction && allRequire condition direction rest

end

/-- The bytes of a text, in the order in which they are read. -/
def word? (direction : Direction) : Program → Option (List UInt8)
  | text letters =>
    let bytes := letters.flatMap String.utf8EncodeChar
    some (match direction with
      | .forward => bytes
      | .backward => bytes.reverse)
  | _ => none

mutual

/-- Builds the states of a program. -/
def build (direction : Direction) : Program → Builder
  | empty | look _ => .states 1 0
  | text letters => .states ((letters.map Char.utf8Size).sum) 0
  | set letters _ =>
    -- Bytes that are whole characters need no more than one state beside the last one.
    if letters.isAscii then .states 2 (letters.ranges.length * 8)
    else
      match direction with
      | .forward => .setForward letters
      | .backward => .setBackward letters
  | repetition body least most _ =>
    .repetition (body.build direction) body.consumes least most
  | capture _ body => fun footprint =>
    match direction with
    | .forward => do
      let inner ← body.build direction (← footprint.grow? 1 0)
      Builder.states 1 0 (← inner.linked?)
    | .backward => body.build direction footprint
  | sequence parts => buildSequence direction parts
  | choice branches => fun footprint =>
    match branches.mapM (word? direction) with
    | some words => Builder.words words footprint
    | none => do
      let footprint ← buildBranches direction 0 branches footprint
      return ⟨footprint, false⟩

/-- Builds programs in the order in which they are read, each linked to the one before it. -/
def buildSequence (direction : Direction) : List Program → Builder
  | [] => .states 1 0
  | [part] => part.build direction
  | part :: rest => fun footprint => do
    match direction with
    | .forward =>
      let first ← part.build direction footprint
      let others ← buildSequence direction rest first.footprint
      return ⟨← others.footprint.link? first.endsInFork, others.endsInFork⟩
    | .backward =>
      let others ← buildSequence direction rest footprint
      let first ← part.build direction others.footprint
      return ⟨← first.footprint.link? others.endsInFork, first.endsInFork⟩

/--
Builds branches one after the other, each between a fork and a last state.

The fork and the last state are built after the second branch.
-/
def buildBranches (direction : Direction) (built : Nat) :
    List Program → Footprint → Option Footprint
  | [], footprint => some footprint
  | branch :: rest, footprint => do
    let piece ← branch.build direction footprint
    let footprint ← piece.linked?
    let footprint ← footprint.grow? (if built = 1 then 2 else 0) 4
    buildBranches direction (built + 1) rest footprint

end

/--
The room of the automaton that reads in a direction.

Before the program there is one state where a match can begin at one place alone, and else a loop
over any bytes. After it there is a state for the match, and when reading forward the match as a
whole is remembered like a group.
-/
def footprint? (program : Program) (direction : Direction) : Option Footprint := do
  let origin := match direction with
    | .forward => Look.textStart
    | .backward => Look.textEnd
  let start ←
    if program.requires origin direction then (⟨0, 0⟩ : Footprint).grow? 1 0
    else (⟨0, 0⟩ : Footprint).grow? 3 16
  match direction with
  | .forward =>
    let piece ← program.build direction (← start.grow? 1 0)
    (← piece.linked?).grow? 2 0
  | .backward =>
    let piece ← program.build direction start
    (← piece.linked?).grow? 1 0

/-- Whether both automata of the program keep to the limit. -/
def fits (program : Program) : Bool :=
  (program.footprint? .forward).isSome && (program.footprint? .backward).isSome

end Program

end Inspection.Regex
