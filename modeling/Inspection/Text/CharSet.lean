import Inspection.Text.Blank

/-! A set of characters is a list of ranges of code points, in order and apart from each other. -/

namespace Inspection.Text

/-- Cuts a list at every occurrence of a separator. -/
def splitAt [DecidableEq α] (separator : α) : List α → List (List α)
  | [] => [[]]
  | element :: rest =>
    if element = separator then [] :: splitAt separator rest
    else
      match splitAt separator rest with
      | piece :: pieces => (element :: piece) :: pieces
      | [] => [[element]]

/-- The value of a lower case hexadecimal digit. -/
def hexDigitValue? (digit : Char) : Option Nat :=
  if digit.isDigit then some (digit.toNat - '0'.toNat)
  else if 'a' ≤ digit ∧ digit ≤ 'f' then some (digit.toNat - 'a'.toNat + 10)
  else none

/-- The value of a run of lower case hexadecimal digits. -/
def hexValue? (digits : List Char) : Option Nat :=
  digits.foldlM (fun value digit => (hexDigitValue? digit).map (value * 16 + ·)) 0

/-- The largest code point. -/
def lastCode : Nat := 0x10FFFF

/-- A set of characters. -/
structure CharSet where
  /-- First and last code point of each range, in order, no two touching. -/
  ranges : List (Nat × Nat)
  deriving DecidableEq, Repr, Inhabited

namespace CharSet

/-- No character. -/
def empty : CharSet := ⟨[]⟩

/-- Whether ranges in order hold a code point. -/
def rangesHave : List (Nat × Nat) → Nat → Bool
  | [], _ => false
  | (first, last) :: rest, code =>
    if code < first then false else if code ≤ last then true else rangesHave rest code

/-- Whether a code point is in the set. -/
def hasCode (set : CharSet) (code : Nat) : Bool := rangesHave set.ranges code

/-- Whether a character is in the set. -/
def contains (set : CharSet) (letter : Char) : Bool := set.hasCode letter.toNat

/-- Extends a range by the ranges that overlap or touch it, and so on with the one after it. -/
def extendRange (first last : Nat) : List (Nat × Nat) → List (Nat × Nat)
  | [] => [(first, last)]
  | next :: rest =>
    if next.1 ≤ last + 1 then extendRange first (max last next.2) rest
    else (first, last) :: extendRange next.1 next.2 rest

/-- Joins ranges that overlap or touch; they come in order of their first code point. -/
def joinRanges : List (Nat × Nat) → List (Nat × Nat)
  | [] => []
  | (first, last) :: rest => extendRange first last rest

/-- The set of all characters in any of the ranges. -/
def ofRanges (ranges : List (Nat × Nat)) : CharSet :=
  ⟨joinRanges (ranges.mergeSort fun left right => left.1 ≤ right.1)⟩

/-- The characters from a first to a last one. -/
def range (first last : Nat) : CharSet := ⟨[(first, last)]⟩

/-- The characters of a list. -/
def ofChars (letters : List Char) : CharSet :=
  ofRanges (letters.map fun letter => (letter.toNat, letter.toNat))

/-- The characters in either set. -/
def union (left right : CharSet) : CharSet := ofRanges (left.ranges ++ right.ranges)

/-- The gaps between ranges from a code point on, up to a last code point. -/
def gaps (start last : Nat) : List (Nat × Nat) → List (Nat × Nat)
  | [] => if start ≤ last then [(start, last)] else []
  | (first, final) :: rest =>
    if start < first then (start, first - 1) :: gaps (final + 1) last rest
    else gaps (final + 1) last rest

/-- The code points outside the set, up to a last one. -/
def complementUpTo (last : Nat) (set : CharSet) : CharSet := ⟨gaps 0 last set.ranges⟩

/-- Every code point. -/
def all : CharSet := range 0 lastCode

/-- The characters outside the set. -/
def complement (set : CharSet) : CharSet := set.complementUpTo lastCode

/-- The characters in both sets. -/
def intersection (left right : CharSet) : CharSet :=
  (left.complement.union right.complement).complement

/-- The characters in the first set only. -/
def difference (left right : CharSet) : CharSet := left.intersection right.complement

/-- The characters in exactly one of the sets. -/
def symmetricDifference (left right : CharSet) : CharSet :=
  (left.difference right).union (right.difference left)

/-- Whether the set holds ASCII characters alone. -/
def isAscii (set : CharSet) : Bool := set.ranges.all fun range => range.2 < 0x80

/-- Reads ranges from the gap before each one and the number of code points after its first. -/
def readRuns (next : Nat) : List (List Char) → List (Nat × Nat)
  | [] => []
  | run :: rest =>
    match (splitAt '.' run).mapM hexValue? with
    | some [gap] => (next + gap, next + gap) :: readRuns (next + gap + 1) rest
    | some [gap, further] =>
      (next + gap, next + gap + further) :: readRuns (next + gap + further + 1) rest
    | _ => readRuns next rest

/-- The set that a table lists. -/
def ofTable (table : String) : CharSet := ⟨readRuns 0 (words table.toList)⟩

end CharSet

end Inspection.Text
