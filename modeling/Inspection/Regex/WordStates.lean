import Inspection.Regex.Footprint
import Inspection.Text.CharSet

/-!
A choice between words is built as a tree, in which words share what they begin with.

The order of words counts: a word that ends keeps the words before it apart from those after it.
-/

namespace Inspection.Regex

/-- What is left of some words, in their order. -/
abbrev Tails := List (List UInt8)

namespace Tails

/-- Whether nothing is left of any word. -/
def isLeaf (tails : Tails) : Bool := tails.all (·.isEmpty)

/--
The runs of words between those that end here.

Words that end here before any other word goes on count once.
-/
def runs (tails : Tails) : List Tails :=
  match Text.splitAt [] tails with
  | [] :: runs => [] :: runs.dropWhile (·.isEmpty)
  | runs => runs

/-- The bytes that the words of a run go on with. -/
def firstBytes (run : Tails) : List UInt8 := (run.filterMap (·.head?)).eraseDups

/-- What is left of the words of a run that go on with a byte. -/
def after (run : Tails) (byte : UInt8) : Tails :=
  run.filterMap fun word =>
    match word with
    | first :: rest => if first = byte then some rest else none
    | [] => none

/-- The room of the tree of some words, of at most so many bytes, that do not all end here. -/
def footprint : Nat → Tails → Footprint
  | 0, _ => ⟨0, 0⟩
  | length + 1, tails =>
    let runs := tails.runs
    let ways := runs.length - 1 + (runs.filter fun run => !run.isEmpty).length
    let ofRun (run : Tails) : Footprint :=
      let bytes := run.firstBytes
      let children := (bytes.map run.after).filter fun child => !child.isLeaf
      children.foldl (fun sum child => sum.add (footprint length child))
        ⟨if bytes.isEmpty then 0 else 1, if bytes.length < 2 then 0 else bytes.length * 8⟩
    runs.foldl (fun sum run => sum.add (ofRun run)) ⟨1, ways * 4⟩

end Tails

/-- Builds a choice between words: their common last state and their tree. -/
def Builder.words (words : List (List UInt8)) : Builder :=
  let longest := words.foldl (fun longest word => max longest word.length) 0
  let tree := Tails.footprint longest words
  states (tree.states + 1) tree.links

end Inspection.Regex
