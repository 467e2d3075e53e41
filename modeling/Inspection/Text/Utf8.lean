import Inspection.Text.CharSet

/-! In UTF-8 a set of characters is a list of sequences of byte ranges. -/

namespace Inspection.Text

/-- A range of bytes, both ends included. -/
structure ByteRange where
  first : UInt8
  last : UInt8
  deriving DecidableEq, Repr, Inhabited

/-- The bytes of the character with a code. -/
def bytesOfCode (code : Nat) : List UInt8 := String.utf8EncodeChar (Char.ofNat code)

/--
Where a range of codes may have to be cut: the last codes of the first parts.

Codes of different lengths are kept apart. Within one length a cut is due where the leading bytes
of the ends differ and the trailing bytes do not run through all their values.
-/
def cutsOf (first last : Nat) : List Nat :=
  let ofBlock (block : Nat) : Option Nat :=
    if first / block = last / block then none
    else if first % block ≠ 0 then some ((first / block + 1) * block - 1)
    else if last % block ≠ block - 1 then some (last / block * block - 1)
    else none
  [0x7F, 0x7FF, 0xFFFF] ++ (if last < 0x80 then [] else [0x40, 0x1000, 0x40000].filterMap ofBlock)

/-- The first cut that a range of codes needs. -/
def cut? (first last : Nat) : Option Nat :=
  (cutsOf first last).find? fun code => first ≤ code ∧ code < last

/-- A cut leaves a code on either side. -/
theorem cut?_bounds {first last code : Nat} (found : cut? first last = some code) :
    first ≤ code ∧ code < last := by
  simpa using List.find?_some found

/-- The byte sequences of the codes from a first to a last one, in order. -/
def byteSequences (first last : Nat) : List (List ByteRange) :=
  match _found : cut? first last with
  | some code => byteSequences first code ++ byteSequences (code + 1) last
  | none => [(bytesOfCode first).zipWith ByteRange.mk (bytesOfCode last)]
termination_by last - first
decreasing_by
  all_goals
    have := cut?_bounds _found
    omega

/-- The set without surrogates, which are no characters. -/
def CharSet.withoutSurrogates (set : CharSet) : CharSet :=
  ⟨set.ranges.flatMap fun (first, last) =>
    [(first, min last 0xD7FF), (max first 0xE000, last)].filter fun range => range.1 ≤ range.2⟩

/-- The byte sequences of the members of a set, in order. -/
def CharSet.byteSequences (set : CharSet) : List (List ByteRange) :=
  set.ranges.flatMap fun (first, last) => Text.byteSequences first last

end Inspection.Text
