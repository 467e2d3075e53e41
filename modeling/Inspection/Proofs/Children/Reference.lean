import Inspection.Children.Arena

/-! A reference that fits is one number: the generation above the twenty bits of the place. -/

namespace Inspection.Reference

/-- The word that holds a generation above the number of a place. -/
def pack (generation place : Nat) : Int64 := Int64.ofNat (generation * 0x100000 + place)

/-- The bits of a reference that do not tell its generation. -/
def withoutGeneration (reference : Int64) : Int64 := reference &&& ~~~0x7FF00000

variable {generation place slot : Nat}

/-- A packed word with a place in it is positive and below two to the thirty-one. -/
theorem pack_toInt (generations : generation < 0x800) (places : place < 0x100000) :
    (pack generation place).toInt = generation * 0x100000 + place := by
  -- The number is far below the largest signed word.
  rw [pack, Int64.toInt_ofNat_of_lt (by omega), Int.natCast_add, Int.natCast_mul]
  rfl

/-- The bits of a small word are its number. -/
theorem toNat_ofNat {number : Nat} (small : number < 0x80000000) :
    (Int64.ofNat number).toBitVec.toNat = number := by
  -- A number of thirty-one bits fits the word, so reducing it modulo the word changes nothing.
  rw [Int64.toBitVec_ofNat', BitVec.toNat_ofNat]
  exact Nat.mod_eq_of_lt (by omega)

/-- The bits of a packed word are its number. -/
theorem toNat_pack (generations : generation < 0x800) (places : place < 0x100000) :
    (pack generation place).toBitVec.toNat = generation * 0x100000 + place :=
  toNat_ofNat (by omega)

/-- Words with the same number of bits are the same. -/
theorem eq_of_toNat_eq {left right : Int64} (same : left.toBitVec.toNat = right.toBitVec.toNat) :
    left = right :=
  Int64.toBitVec_inj.mp (BitVec.eq_of_toNat_eq same)

/-- Masking twenty bits is taking the remainder. -/
theorem and_twenty_bits (number : Nat) : number &&& 0xFFFFF = number % 0x100000 :=
  Nat.and_two_pow_sub_one_eq_mod number 20

/-- Of a number below two to the thirty-one, masking the generation leaves twenty bits. -/
theorem and_without_generation {number : Nat} (small : number < 0x80000000) :
    number &&& 0xFFFFFFFF800FFFFF = number % 0x100000 := by
  have bound : number &&& 0xFFFFFFFF800FFFFF < 0x80000000 :=
    Nat.lt_of_le_of_lt Nat.and_le_left small
  -- Below two to the thirty-one the mask keeps the low twenty bits and nothing else.
  have reduced : (number &&& 0xFFFFFFFF800FFFFF) % 0x80000000 =
      (number % 0x80000000) &&& 0xFFFFF :=
    Nat.and_mod_two_pow (n := 31)
  rw [← Nat.mod_eq_of_lt bound, reduced, and_twenty_bits]
  omega

/-- A number below the lowest bit of a shifted one is added to it. -/
theorem shiftLeft_or {low : Nat} (small : low < 0x100000) (high : Nat) :
    high <<< 20 ||| low = high * 0x100000 + low := by
  -- The low twenty bits of the shifted number are clear, so joining cannot carry.
  have joined := Nat.shiftLeft_add_eq_or_of_lt (i := 20) small high
  rw [← joined, Nat.shiftLeft_eq]

/-- Counting a place from one is plain addition of words. -/
theorem tag_eq (slot : Nat) : (UInt64.ofNat slot).toInt64 + 1 = Int64.ofNat (slot + 1) := by
  -- Both words are the same sixty-four bits.
  apply Int64.toBitVec_inj.mp
  simp

/-- Counting a place back from one is plain subtraction of words. -/
theorem untag_eq (slot : Nat) : Int64.ofNat (slot + 1) - 1 = Int64.ofNat slot := by
  -- Taking the added one away again gives back the bits.
  apply Int64.toBitVec_inj.mp
  simp

/-- The largest number of a place, as an integer. -/
theorem slotMask_toInt : slotMask.toInt = 0xFFFFF := by decide

/-- Shifting by the bits of a place shifts by twenty. -/
theorem slotBits_smod : slotBits.toBitVec.smod 64 = 20 := by decide

/-- Masking the eleven bits of a generation is taking the remainder. -/
theorem toNat_and_generationMask (generation : UInt32) :
    (generation &&& generationMask).toNat = generation.toNat % 0x800 := by
  have low : generation.toNat &&& 0x7FF = generation.toNat % 0x800 :=
    Nat.and_two_pow_sub_one_eq_mod generation.toNat 11
  rw [UInt32.toNat_and]
  exact low

/-- The eleven bits of a generation, shifted to their position. -/
theorem toNat_shifted (generation : UInt32) :
    ((generation &&& generationMask).toUInt64.toInt64 <<< slotBits).toBitVec.toNat =
      (generation.toNat % 0x800) <<< 20 := by
  -- Eleven bits shifted by twenty stay within the sixty-four of the word.
  have bound : (generation.toNat % 0x800) <<< 20 < 0x10000000000000000 := by
    rw [Nat.shiftLeft_eq]
    omega
  have bits : (generation &&& generationMask).toUInt64.toInt64.toBitVec.toNat =
      generation.toNat % 0x800 := by
    rw [← toNat_and_generationMask]
    simp
  rw [Int64.toBitVec_shiftLeft, slotBits_smod, BitVec.shiftLeft_eq', BitVec.toNat_shiftLeft, bits]
  exact Nat.mod_eq_of_lt bound

/-- A place that fits is packed below the eleven bits of its generation. -/
theorem encode_of_fits (generation : UInt32) (fits : slot < 0xFFFFF) :
    encode generation (UInt64.ofNat slot) =
      some (pack (generation.toNat % 0x800) (slot + 1)) := by
  have small : ¬ slotMask < Int64.ofNat (slot + 1) := by
    rw [Int64.lt_iff_toInt_lt, Int64.toInt_ofNat_of_lt (by omega), slotMask_toInt]
    omega
  simp only [encode, tag_eq, if_neg small, Option.some.injEq]
  apply eq_of_toNat_eq
  -- The number of the place stays below the lowest bit of the shifted generation.
  rw [Int64.toBitVec_or, BitVec.toNat_or, toNat_shifted, toNat_ofNat (by omega),
    shiftLeft_or (by omega), toNat_pack (Nat.mod_lt _ (by decide)) (by omega)]

/-- A place that does not fit has no word. -/
theorem encode_of_large (generation : UInt32) (large : 0xFFFFF ≤ slot)
    (word : slot < 0x7FFFFFFFFFFFFFFF) : encode generation (UInt64.ofNat slot) = none := by
  -- The number of the place is still a positive word, but above the largest tag.
  have tooLarge : slotMask < Int64.ofNat (slot + 1) := by
    rw [Int64.lt_iff_toInt_lt, Int64.toInt_ofNat_of_lt (by omega), slotMask_toInt]
    omega
  simp only [encode, tag_eq, if_pos tooLarge]

/-- A position in an array is a word of its own. -/
theorem slotAt_of_lt (position : slot < 0x7FFFFFFFFFFFFFFF) : slotAt slot = UInt64.ofNat slot := by
  -- The last of all positions is not passed.
  rw [slotAt, Nat.min_eq_left (by omega)]

/-- From some position on, all have words that stand from there on and before the last word. -/
theorem slotAt_of_le (large : 0xFFFFF ≤ slot) :
    ∃ word, slotAt slot = UInt64.ofNat word ∧ 0xFFFFF ≤ word ∧ word < 0x7FFFFFFFFFFFFFFF :=
  ⟨_, rfl, by omega, by omega⟩

/-- Without the generation a packed word is the number of the place. -/
theorem withoutGeneration_pack (generations : generation < 0x800) (places : place < 0x100000) :
    withoutGeneration (pack generation place) = Int64.ofNat place := by
  -- What the mask clears is exactly where the generation stands.
  have mask : (~~~(0x7FF00000 : Int64)).toBitVec.toNat = 0xFFFFFFFF800FFFFF := by decide
  apply eq_of_toNat_eq
  rw [withoutGeneration, Int64.toBitVec_and, BitVec.toNat_and, toNat_pack generations places, mask,
    and_without_generation (by omega), toNat_ofNat (by omega)]
  omega

/-! Decoding takes any word apart, also one that was never given out. -/

variable {reference : Int64} {number : Nat}

/-- The low bits of a word are the remainder of its number. -/
theorem and_slotMask (bits : reference.toBitVec.toNat = number) :
    reference &&& slotMask = Int64.ofNat (number % 0x100000) := by
  -- The mask keeps twenty bits, whatever stands above them.
  have mask : slotMask.toBitVec.toNat = 0xFFFFF := by decide
  apply eq_of_toNat_eq
  rw [Int64.toBitVec_and, BitVec.toNat_and, bits, mask, and_twenty_bits, toNat_ofNat (by omega)]

/-- The high bits of a word that is not negative are the quotient of its number. -/
theorem shiftRight_slotBits (bits : reference.toBitVec.toNat = number)
    (small : number < 0x8000000000000000) :
    (reference >>> slotBits).toUInt64.toUInt32 = UInt32.ofNat (number / 0x100000) := by
  -- The sign bit is clear, so the shift fills with zeros.
  have positive : reference.toBitVec.msb = false := by
    rw [BitVec.msb_eq_false_iff_two_mul_lt, bits]
    omega
  have shifted : (reference >>> slotBits).toBitVec.toNat = number / 0x100000 := by
    rw [Int64.toBitVec_shiftRight, slotBits_smod, BitVec.sshiftRight_eq',
      BitVec.toNat_sshiftRight_of_msb_false positive, bits, Nat.shiftRight_eq_div_pow]
    rfl
  apply UInt32.toBitVec_inj.mp
  apply BitVec.eq_of_toNat_eq
  simp [-Int64.toBitVec_shiftRight, shifted]

/-- A word is read as its number below half of all words, and from there on as a negative one. -/
theorem toInt_eq_cond (bits : reference.toBitVec.toNat = number) :
    reference.toInt =
      if number < 0x8000000000000000 then (number : Int) else number - 0x10000000000000000 := by
  -- Doubling the number passes the word exactly if its sign bit is set.
  have reading := BitVec.toInt_eq_toNat_cond reference.toBitVec
  rw [Int64.toInt_toBitVec, bits] at reading
  rw [reading]
  split <;> split <;> omega

/-- The number of a word that is not negative is that of its bits. -/
theorem toInt_of_toNat (bits : reference.toBitVec.toNat = number)
    (small : number < 0x8000000000000000) : reference.toInt = number := by
  -- Below the sign bit both readings of a word agree.
  rw [toInt_eq_cond bits, if_pos small]

/-- A word that is not negative has a clear sign bit. -/
theorem toNat_lt_of_nonneg (nonnegative : 0 ≤ reference.toInt) :
    reference.toBitVec.toNat < 0x8000000000000000 := by
  have bound := BitVec.toInt_pos_iff.mp nonnegative
  omega

/-- A word that is not negative is decoded by division, and a remainder of zero is refused. -/
theorem decode_of_toNat (bits : reference.toBitVec.toNat = number)
    (small : number < 0x8000000000000000) :
    decode reference = if number % 0x100000 = 0 then none
      else some (UInt32.ofNat (number / 0x100000), UInt64.ofNat (number % 0x100000 - 1)) := by
  have tagged : reference &&& slotMask = 0 ↔ number % 0x100000 = 0 := by
    rw [and_slotMask bits, ← Int64.toInt_inj, Int64.toInt_ofNat_of_lt (by omega), Int64.toInt_zero]
    omega
  by_cases empty : number % 0x100000 = 0
  · rw [if_pos empty]
    simp only [decode, if_pos (tagged.mpr empty), ite_self]
  · -- The number is not zero, so the word is positive.
    have positive : ¬ reference ≤ 0 := by
      rw [Int64.le_iff_toInt_le, toInt_of_toNat bits small, Int64.toInt_zero]
      omega
    have untagged : (Int64.ofNat (number % 0x100000) - 1).toUInt64 =
        UInt64.ofNat (number % 0x100000 - 1) := by
      obtain ⟨slot, same⟩ := Nat.exists_eq_succ_of_ne_zero empty
      rw [same, Nat.succ_eq_add_one, untag_eq]
      rfl
    rw [if_neg empty]
    simp only [decode, if_neg positive, if_neg (mt tagged.mp empty)]
    rw [shiftRight_slotBits bits small, and_slotMask bits, untagged]

/-- A packed word decodes to its generation and its place. -/
theorem decode_pack (generations : generation < 0x800) (fits : slot < 0xFFFFF) :
    decode (pack generation (slot + 1)) = some (UInt32.ofNat generation, UInt64.ofNat slot) := by
  -- Dividing by the room for places gives back what was put together.
  have low : (generation * 0x100000 + (slot + 1)) % 0x100000 = slot + 1 := by omega
  have high : (generation * 0x100000 + (slot + 1)) / 0x100000 = generation := by omega
  rw [decode_of_toNat (toNat_pack generations (by omega)) (by omega), low, high,
    if_neg (Nat.succ_ne_zero slot), Nat.add_sub_cancel]

end Inspection.Reference
