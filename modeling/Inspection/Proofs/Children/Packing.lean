import Inspection.Proofs.Children.Reference

/-! Packing can be undone exactly for the places below the largest positive word. -/

namespace Inspection.Reference

/-- The signed word of a number, unless the number overflows it. -/
def signed? (number : Int) : Option Int64 :=
  if -0x8000000000000000 ≤ number ∧ number < 0x8000000000000000 then some (Int64.ofInt number)
  else none

/-- Packing in arithmetic that gives up as soon as a word overflows. -/
def encodeChecked (generation : UInt32) (slot : UInt64) : Option (Option Int64) :=
  -- A place is read as a signed word before it is counted, as it is in packing.
  (signed? (slot.toInt64.toInt + 1)).bind fun tagged =>
    if slotMask < tagged then some none
    else (signed? ((generation &&& generationMask).toNat * 0x100000)).map fun high =>
      some (high ||| tagged)

/-- Decoding in arithmetic that gives up as soon as a word overflows. -/
def decodeChecked (reference : Int64) : Option (Option (UInt32 × UInt64)) :=
  if reference ≤ 0 then some none
  else if reference &&& slotMask = 0 then some none
  else (signed? ((reference &&& slotMask).toInt - 1)).map fun place =>
    some ((reference >>> slotBits).toUInt64.toUInt32, place.toUInt64)

/-- What a reference promises for a generation and a place. -/
structure Reversible (generation : UInt32) (slot : UInt64) : Prop where
  /-- There is a word exactly for the places that twenty bits count from one. -/
  fits : (encode generation slot).isSome ↔ slot.toNat < 0xFFFFF
  empty : ¬ slot.toNat < 0xFFFFF → ofSlot generation slot = 0
  /-- Nothing overflows, neither on the way to the word nor back. -/
  exact : encodeChecked generation slot = some (encode generation slot) ∧
    ∀ reference, encode generation slot = some reference →
      decodeChecked reference = some (decode reference)
  bounded : ∀ reference, encode generation slot = some reference →
    0 < reference.toInt ∧ reference.toInt < 0x80000000
  decoded : ∀ reference, encode generation slot = some reference →
    decode reference = some (generation % 0x800, slot)
  /-- A word tells eleven bits of a generation and the whole place. -/
  distinct : ∀ reference, encode generation slot = some reference →
    ∀ other place, encode other place = some reference ↔
      other % 0x800 = generation % 0x800 ∧ place = slot

variable {generation : UInt32} {slot : UInt64} {reference : Int64}

/-! The numbers that are packed. -/

/-- The number of a word does not overflow it. -/
theorem signed?_of_toInt {number : Int} (exact : reference.toInt = number) :
    signed? number = some reference := by
  -- A word's number lies between the smallest and the largest that a word can hold.
  have lower : -0x8000000000000000 ≤ reference.toInt := Int64.le_toInt reference
  have upper : reference.toInt < 0x8000000000000000 := Int64.toInt_lt reference
  rw [signed?, ← exact, if_pos ⟨lower, upper⟩, Int64.ofInt_toInt]

/-- Counted from one, a place is a negative number from the largest positive word on. -/
theorem tag_toInt (slot : UInt64) :
    (slot.toInt64 + 1).toInt =
      if slot.toNat < 0x7FFFFFFFFFFFFFFF then (slot.toNat : Int) + 1
      else (slot.toNat : Int) + 1 - 0x10000000000000000 := by
  have bound : slot.toNat < 0x10000000000000000 := slot.toNat_lt
  have bits : (slot.toInt64 + 1).toBitVec.toNat = (slot.toNat + 1) % 0x10000000000000000 := by
    simp
  -- The sum goes round once, so that the last place of all is counted as zero.
  rw [toInt_eq_cond bits]
  split <;> split <;> omega

/-- Counting a place from one overflows at the largest positive word and nowhere else. -/
theorem signed?_tag (slot : UInt64) :
    signed? (slot.toInt64.toInt + 1) =
      if slot.toNat = 0x7FFFFFFFFFFFFFFF then none else some (slot.toInt64 + 1) := by
  have bound : slot.toNat < 0x10000000000000000 := slot.toNat_lt
  have bits : slot.toInt64.toBitVec.toNat = slot.toNat := by
    rw [UInt64.toBitVec_toInt64]
    rfl
  split
  · -- The largest positive number has no number behind it.
    rename_i last
    rw [toInt_eq_cond bits, last]
    rfl
  · -- Place and number turn negative together, except for the one place in between.
    apply signed?_of_toInt
    rw [tag_toInt, toInt_eq_cond bits]
    split <;> split <;> omega

/-- The eleven bits of a generation, shifted to their position, are a positive word. -/
theorem high_toInt (generation : UInt32) :
    ((generation &&& generationMask).toUInt64.toInt64 <<< slotBits).toInt =
      (generation &&& generationMask).toNat * 0x100000 := by
  -- Eleven bits above twenty end far below the sign bit.
  have bits := toNat_shifted generation
  rw [Nat.shiftLeft_eq] at bits
  rw [toInt_of_toNat bits (by omega), toNat_and_generationMask]
  rfl

/-- The eleven bits of a generation are its remainder. -/
theorem ofNat_mod (generation : UInt32) :
    UInt32.ofNat (generation.toNat % 0x800) = generation % 0x800 := by
  -- The remainder is itself a word of thirty-two bits.
  apply UInt32.toNat_inj.mp
  rw [UInt32.toNat_mod, UInt32.toNat_ofNat_of_lt']
  · rfl
  · exact Nat.lt_of_le_of_lt (Nat.mod_le _ _) generation.toNat_lt

/-- A generation whose eleven bits are not all clear shows in the word. -/
theorem high_ne_zero (live : generation % 0x800 ≠ 0) :
    (generation &&& generationMask).toUInt64.toInt64 <<< slotBits ≠ 0 := by
  -- The word is the remainder times a power of two, so it is zero only with the remainder.
  intro zero
  have number := high_toInt generation
  rw [zero, Int64.toInt_zero, toNat_and_generationMask] at number
  apply live
  rw [← ofNat_mod, show generation.toNat % 0x800 = 0 by omega]
  rfl

/-! Checked arithmetic gives what is computed, but for one place. -/

/-- Packing overflows at the largest positive word and nowhere else. -/
theorem encodeChecked_eq (generation : UInt32) (slot : UInt64) :
    encodeChecked generation slot =
      if slot.toNat = 0x7FFFFFFFFFFFFFFF then none else some (encode generation slot) := by
  -- Only counting the place from one can overflow, for the shifted generation is small.
  rw [encodeChecked, signed?_tag]
  split
  · rfl
  · simp only [Option.bind_some, signed?_of_toInt (high_toInt generation), Option.map_some, encode]
    split <;> rfl

/-- Decoding overflows nowhere. -/
theorem decodeChecked_eq (reference : Int64) :
    decodeChecked reference = some (decode reference) := by
  simp only [decodeChecked, decode]
  split
  · rfl
  split
  · rfl
  · rename_i tagged
    -- The low bits are a number from one on, so counting back from it is exact.
    have low := and_slotMask (rfl : reference.toBitVec.toNat = _)
    have nonzero : reference.toBitVec.toNat % 0x100000 ≠ 0 := by
      intro zero
      rw [low, zero] at tagged
      exact tagged rfl
    obtain ⟨place, same⟩ := Nat.exists_eq_succ_of_ne_zero nonzero
    have exact : (Int64.ofNat place).toInt = (Int64.ofNat (place + 1)).toInt - 1 := by
      rw [Int64.toInt_ofNat_of_lt (by omega), Int64.toInt_ofNat_of_lt (by omega)]
      omega
    rw [low, same, Nat.succ_eq_add_one, untag_eq, signed?_of_toInt exact]
    rfl

/-! A place that is counted as a negative number passes the bound, and its word leads nowhere. -/

/-- A negative number is below every bound, so that there is a word. -/
theorem encode_of_negative (generation : UInt32) (negative : 0x7FFFFFFFFFFFFFFF ≤ slot.toNat) :
    encode generation slot =
      some ((generation &&& generationMask).toUInt64.toInt64 <<< slotBits |||
        (slot.toInt64 + 1)) := by
  -- As a signed number the place is at most zero once it has been counted on.
  have bound : slot.toNat < 0x10000000000000000 := slot.toNat_lt
  have within : ¬ slotMask < slot.toInt64 + 1 := by
    rw [Int64.lt_iff_toInt_lt, slotMask_toInt, tag_toInt, if_neg (by omega)]
    omega
  simp only [encode, if_neg within]

/-- What is joined with a word that is not zero is not zero. -/
theorem or_ne_zero {left : Int64} (nonzero : left ≠ 0) (right : Int64) : left ||| right ≠ 0 := by
  -- Joining clears no bit.
  intro zero
  have bits := congrArg Int64.toBitVec zero
  rw [Int64.toBitVec_or] at bits
  exact nonzero (Int64.toBitVec_inj.mp (BitVec.or_eq_zero_iff.mp bits).1)

/-- What is joined with a negative word is negative. -/
theorem or_toInt_neg (left : Int64) {right : Int64} (negative : right.toInt < 0) :
    (left ||| right).toInt < 0 := by
  -- The sign bit stays set.
  have sign : right.toBitVec.msb = true := by
    rw [BitVec.msb_eq_toInt, Int64.toInt_toBitVec]
    exact decide_eq_true negative
  have joined : (left ||| right).toBitVec.msb = true := by
    rw [Int64.toBitVec_or, BitVec.msb_or, sign, Bool.or_true]
  rw [BitVec.msb_eq_toInt, Int64.toInt_toBitVec] at joined
  exact of_decide_eq_true joined

/-- A word with a negative number in it leads nowhere. -/
theorem decode_of_negative (generation : UInt32) (negative : 0x7FFFFFFFFFFFFFFF ≤ slot.toNat) :
    decode ((generation &&& generationMask).toUInt64.toInt64 <<< slotBits ||| (slot.toInt64 + 1)) =
      none := by
  have bound : slot.toNat < 0x10000000000000000 := slot.toNat_lt
  have number := tag_toInt slot
  rw [if_neg (by omega)] at number
  by_cases last : slot.toNat = 0xFFFFFFFFFFFFFFFF
  · -- The last place of all is counted as zero, which stands for no place.
    have zero : slot.toInt64 + 1 = 0 := by
      rw [← Int64.toInt_inj, number, last]
      rfl
    have bits := toNat_shifted generation
    rw [Nat.shiftLeft_eq] at bits
    rw [zero, Int64.or_zero, decode_of_toNat bits (by omega), if_pos (by omega)]
  · -- Every other number is negative, and so is the word.
    have sign := or_toInt_neg ((generation &&& generationMask).toUInt64.toInt64 <<< slotBits)
      (show (slot.toInt64 + 1).toInt < 0 by omega)
    rw [decode, if_pos]
    rw [Int64.le_iff_toInt_le, Int64.toInt_zero]
    omega

/-! What a word leads back to. -/

/-- A place that fits is packed below the remainder of its generation. -/
theorem encode_of_lt (generation : UInt32) (fits : slot.toNat < 0xFFFFF) :
    encode generation slot = some (pack (generation.toNat % 0x800) (slot.toNat + 1)) := by
  -- A word is the number of its own bits.
  have packed := encode_of_fits generation fits
  rwa [UInt64.ofNat_toNat] at packed

/-- A place that does not fit is refused below the largest positive word. -/
theorem encode_of_between (generation : UInt32) (large : 0xFFFFF ≤ slot.toNat)
    (word : slot.toNat < 0x7FFFFFFFFFFFFFFF) : encode generation slot = none := by
  -- A word is the number of its own bits.
  have refused := encode_of_large generation large word
  rwa [UInt64.ofNat_toNat] at refused

/-- A word leads back to the place that it was made for, or else nowhere. -/
theorem decode_of_encode (packed : encode generation slot = some reference) :
    decode reference =
      if slot.toNat < 0xFFFFF then some (generation % 0x800, slot) else none := by
  split
  · -- What was packed with room for it is taken apart again.
    rename_i fits
    rw [encode_of_lt generation fits] at packed
    cases packed
    rw [decode_pack (Nat.mod_lt _ (by decide)) fits, UInt64.ofNat_toNat, ofNat_mod]
  · -- A place too large is refused, or else taken for a negative number.
    rename_i large
    by_cases word : slot.toNat < 0x7FFFFFFFFFFFFFFF
    · rw [encode_of_between generation (Nat.le_of_not_lt large) word] at packed
      cases packed
    · have negative := Nat.le_of_not_lt word
      rw [encode_of_negative generation negative] at packed
      cases packed
      exact decode_of_negative generation negative

/-- A place that fits shares its word with no other place, and with no other eleven bits. -/
theorem encode_eq_some_iff (fits : slot.toNat < 0xFFFFF)
    (packed : encode generation slot = some reference) (other : UInt32) (place : UInt64) :
    encode other place = some reference ↔ other % 0x800 = generation % 0x800 ∧ place = slot := by
  constructor
  · -- Both pairs are what the word decodes to; a word of a place too large decodes to nothing.
    intro same
    have target := decode_of_encode packed
    rw [if_pos fits, decode_of_encode same] at target
    split at target
    · exact Prod.mk.inj (Option.some.inj target)
    · cases target
  · -- Only the remainder of a generation is packed.
    rintro ⟨residue, rfl⟩
    have remainder := congrArg UInt32.toNat residue
    rw [UInt32.toNat_mod, UInt32.toNat_mod] at remainder
    change other.toNat % 0x800 = generation.toNat % 0x800 at remainder
    rw [← packed, encode_of_lt generation fits, encode_of_lt other fits, remainder]

/-- A reference keeps what it promises for a place that fits. -/
theorem reversible_of_fits (generation : UInt32) (fits : slot.toNat < 0xFFFFF) :
    Reversible generation slot where
  fits := by simp [encode_of_lt generation fits, fits]
  empty large := absurd fits large
  exact := by
    rw [encodeChecked_eq, if_neg (by omega)]
    exact ⟨rfl, fun reference _ => decodeChecked_eq reference⟩
  bounded reference packed := by
    rw [encode_of_lt generation fits, Option.some.injEq] at packed
    have remainder : generation.toNat % 0x800 < 0x800 := Nat.mod_lt _ (by decide)
    rw [← packed, pack_toInt remainder (by omega)]
    omega
  decoded reference packed := by rw [decode_of_encode packed, if_pos fits]
  distinct reference packed := encode_eq_some_iff fits packed

/-- A place that does not fit has the empty reference below the largest positive word. -/
theorem reversible_of_between (generation : UInt32) (large : 0xFFFFF ≤ slot.toNat)
    (word : slot.toNat < 0x7FFFFFFFFFFFFFFF) : Reversible generation slot := by
  have refused := encode_of_between generation large word
  have absent : ∀ reference, encode generation slot ≠ some reference := by simp [refused]
  -- What is promised of a word is promised of none here.
  exact {
    fits := by simp [refused, large]
    empty := fun _ => by rw [ofSlot, refused, Option.getD_none]
    exact := by
      rw [encodeChecked_eq, if_neg (Nat.ne_of_lt word)]
      exact ⟨rfl, fun reference _ => decodeChecked_eq reference⟩
    bounded := fun reference packed => absurd packed (absent reference)
    decoded := fun reference packed => absurd packed (absent reference)
    distinct := fun reference packed => absurd packed (absent reference) }

/-- Below the largest positive word a reference keeps what it promises. -/
theorem reversible_of_lt (generation : UInt32) (word : slot.toNat < 0x7FFFFFFFFFFFFFFF) :
    Reversible generation slot := by
  -- The places below the largest positive word fit, or they are refused.
  rcases Nat.lt_or_ge slot.toNat 0xFFFFF with fits | large
  · exact reversible_of_fits generation fits
  · exact reversible_of_between generation large word

/--
A reference keeps what it promises exactly for the places below the largest positive word.

Packing overflows at that word and at no other place.
From there on a place passes for a small one: its word is not the empty reference, and it leads
nowhere.
-/
theorem reversible_iff (generation : UInt32) (slot : UInt64) (live : generation % 0x800 ≠ 0) :
    (Reversible generation slot ↔ slot.toNat < 0x7FFFFFFFFFFFFFFF) ∧
      (encodeChecked generation slot = none ↔ slot.toNat = 0x7FFFFFFFFFFFFFFF) ∧
      (0x7FFFFFFFFFFFFFFF ≤ slot.toNat →
        encode generation slot = some (ofSlot generation slot) ∧
          ofSlot generation slot ≠ 0 ∧ decode (ofSlot generation slot) = none) := by
  refine ⟨⟨fun kept => Nat.lt_of_not_le fun negative => ?_, reversible_of_lt generation⟩, ?_,
    fun negative => ?_⟩
  · -- There is a word, though the place does not fit.
    have packed := encode_of_negative generation negative
    have fits := kept.fits.mp (by rw [packed]; rfl)
    omega
  · -- Packing overflows where counting on does.
    rw [encodeChecked_eq]
    simp
  · -- The word holds the generation, which is not zero, and a number that is not positive.
    have packed := encode_of_negative generation negative
    rw [ofSlot, packed, Option.getD_some]
    exact ⟨rfl, or_ne_zero (high_ne_zero live) _, decode_of_negative generation negative⟩

/-- The last place that fits is told from the last place of all, in the largest generation. -/
theorem reversible_of_last_fitting :
    (0xFFFFFFFF : UInt32) % 0x800 ≠ 0 ∧ Reversible 0xFFFFFFFF 0xFFFFE ∧
      ofSlot 0xFFFFFFFF 0xFFFFE = 0x7FFFFFFF ∧
      ¬ Reversible 0xFFFFFFFF 0xFFFFFFFFFFFFFFFF ∧
      ofSlot 0xFFFFFFFF 0xFFFFFFFFFFFFFFFF ≠ 0 := by
  have live : (0xFFFFFFFF : UInt32) % 0x800 ≠ 0 := by decide
  have last := reversible_iff 0xFFFFFFFF 0xFFFFFFFFFFFFFFFF live
  exact ⟨live, (reversible_iff 0xFFFFFFFF 0xFFFFE live).1.mpr (by decide), by decide,
    fun kept => absurd (last.1.mp kept) (by decide), (last.2.2 (by decide)).2.1⟩

/--
The last place of all has a word that leads nowhere, where the empty reference is promised.

The place before it has the same word in two generations.
-/
theorem last_place_packed :
    (1 : UInt32) % 0x800 ≠ 0 ∧ encode 1 0xFFFFFFFFFFFFFFFF = some 0x100000 ∧
      ofSlot 1 0xFFFFFFFFFFFFFFFF = 0x100000 ∧ decode 0x100000 = none ∧
      encode 1 0xFFFFFFFFFFFFFFFE = some (-1) ∧ encode 2 0xFFFFFFFFFFFFFFFE = some (-1) ∧
      ¬ Reversible 1 0xFFFFFFFFFFFFFFFF := by
  have empty : ofSlot 1 0xFFFFFFFFFFFFFFFF = 0x100000 := by decide
  refine ⟨by decide, by decide, empty, by decide, by decide, by decide, fun kept => ?_⟩
  -- A promise kept would leave the place the empty reference.
  rw [kept.empty (by decide)] at empty
  exact absurd empty (by decide)

end Inspection.Reference
