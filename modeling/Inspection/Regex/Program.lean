import Inspection.Text.CharSet
import Inspection.Text.Letter

/-! Matching computes, for a set of positions in a text, every position that can be reached. -/

namespace Inspection.Regex

/-- Conditions that hold or fail between two characters. -/
inductive Look where
  | textStart
  | textEnd
  | lineStart
  | lineEnd
  | lineStartCrlf
  | lineEndCrlf
  | boundary (unicode negated : Bool)
  | wordStart (unicode : Bool)
  | wordEnd (unicode : Bool)
  | wordStartHalf (unicode : Bool)
  | wordEndHalf (unicode : Bool)
  deriving DecidableEq, Repr, Inhabited

/-- An expression with all flags and properties resolved. -/
inductive Program where
  | empty
  /-- These characters one after the other. -/
  | text (letters : List Char)
  /-- One of the characters of a set; a set of bytes differs from one of characters. -/
  | set (letters : Text.CharSet) (bytewise : Bool)
  | look (condition : Look)
  /-- At least so many times, and at most so many if there is an upper bound. -/
  | repetition (body : Program) (least : Nat) (most : Option Nat) (greedy : Bool)
  /-- A group that remembers what it matches, by its number. -/
  | capture (number : Nat) (body : Program)
  | sequence (parts : List Program)
  | choice (branches : List Program)
  deriving Repr, Inhabited

/-- Whether a character counts as part of a word. -/
def isWordLetter (unicode : Bool) (letter : Char) : Bool :=
  if unicode then Text.isWord letter
  else letter.toNat < 0x80 && (letter.isAlphanum || letter == '_')

/-- Whether a condition holds between the characters before and after a position. -/
def Look.holds (look : Look) (before after : Option Char) : Bool :=
  let isWord (unicode : Bool) (letter : Option Char) := letter.any (isWordLetter unicode)
  match look with
  | textStart => before.isNone
  | textEnd => after.isNone
  | lineStart => before.isNone || before == some '\n'
  | lineEnd => after.isNone || after == some '\n'
  | lineStartCrlf =>
    before.isNone || before == some '\n' || (before == some '\r' && after != some '\n')
  | lineEndCrlf =>
    after.isNone || after == some '\r' || (after == some '\n' && before != some '\r')
  | boundary unicode negated => negated != (isWord unicode before != isWord unicode after)
  | wordStart unicode => !isWord unicode before && isWord unicode after
  | wordEnd unicode => isWord unicode before && !isWord unicode after
  | wordStartHalf unicode => !isWord unicode before
  | wordEndHalf unicode => !isWord unicode after

/-- A set of positions: bit `i` stands for the position before character `i`. -/
abbrev Positions := Nat

/-- The positions before the characters that pass a test. -/
def positionsWhere (test : Char → Bool) : List Char → Positions
  | [] => 0
  | letter :: rest => positionsWhere test rest * 2 + (if test letter then 1 else 0)

/-- The positions at which a condition holds. -/
def positionsLooking (look : Look) (before : Option Char) : List Char → Positions
  | [] => if look.holds before none then 1 else 0
  | letter :: rest =>
    positionsLooking look (some letter) rest * 2
      + (if look.holds before (some letter) then 1 else 0)

/-- Applies a step again and again. -/
def iterate (step : Positions → Positions) : Nat → Positions → Positions
  | 0, positions => positions
  | times + 1, positions => iterate step times (step positions)

/-- Adds what a step reaches, at most so many times, until nothing new is reached. -/
def accumulate (step : Positions → Positions) : Nat → Positions → Positions
  | 0, positions => positions
  | times + 1, positions =>
    let further := positions ||| step positions
    if further = positions then positions else accumulate step times further

/-- The positions after the characters that pass a test. -/
def stepOver (text : List Char) (test : Char → Bool) (positions : Positions) : Positions :=
  (positions &&& positionsWhere test text) <<< 1

namespace Program

mutual

/-- The positions reached from any of the given ones by matching a part of the text. -/
def reach (text : List Char) (program : Program) (positions : Positions) : Positions :=
  match program with
  | empty => positions
  | .text letters =>
    letters.foldl (fun positions letter => stepOver text (· == letter) positions) positions
  | set letters _ => stepOver text letters.contains positions
  | look condition => positions &&& positionsLooking condition none text
  | repetition body least most _ =>
    -- One round more than there are positions reaches whatever more rounds would reach.
    let rounds := text.length + 2
    let required := iterate (body.reach text) (min least rounds) positions
    match most with
    | none => accumulate (body.reach text) rounds required
    | some most => accumulate (body.reach text) (min (most - least) rounds) required
  | capture _ body => body.reach text positions
  | sequence parts => reachThrough text parts positions
  | choice branches => reachByAny text branches positions

/-- The positions reached by matching programs one after the other. -/
def reachThrough (text : List Char) (parts : List Program) (positions : Positions) : Positions :=
  match parts with
  | [] => positions
  | part :: rest => reachThrough text rest (part.reach text positions)

/-- The positions reached by matching any of the programs. -/
def reachByAny (text : List Char) (branches : List Program) (positions : Positions) : Positions :=
  match branches with
  | [] => 0
  | branch :: rest => branch.reach text positions ||| reachByAny text rest positions

end

/-- Whether the program matches somewhere in a text. -/
def isMatch (program : Program) (text : List Char) : Bool :=
  program.reach text ((1 <<< (text.length + 1)) - 1) != 0

end Program

end Inspection.Regex
