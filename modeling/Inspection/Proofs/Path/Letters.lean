import Inspection.Proofs.Path.Grammar

/-! No letter of a name is blank, so nothing is cut from the text of a path. -/

namespace Inspection

namespace Text

/-- The runs of code points of the blank characters. -/
def blankRuns : List (Nat × Nat) :=
  [(9, 13), (0x20, 0x20), (0x85, 0x85), (0xA0, 0xA0), (0x1680, 0x1680), (0x2000, 0x200A),
    (0x2028, 0x2029), (0x202F, 0x202F), (0x205F, 0x205F), (0x3000, 0x3000)]

/-- A code point is in one of the runs of the blank characters. -/
def IsBlankCode (code : Nat) : Prop := ∃ run ∈ blankRuns, run.1 ≤ code ∧ code ≤ run.2

instance (code : Nat) : Decidable (IsBlankCode code) :=
  inferInstanceAs (Decidable (∃ run ∈ blankRuns, run.1 ≤ code ∧ code ≤ run.2))

/-- A blank character has a code point in one of the runs. -/
theorem isBlankCode_of_isBlank {letter : Char} (blank : isBlank letter = true) :
    IsBlankCode letter.toNat := by
  -- Either way the blank characters are listed, so only the numbers have to be compared.
  simp only [isBlank, Bool.or_eq_true, Bool.and_eq_true, decide_eq_true_eq, beq_iff_eq] at blank
  simp only [IsBlankCode, blankRuns, List.mem_cons, List.not_mem_nil, or_false,
    exists_eq_or_imp, exists_eq_left]
  omega

/-- None of some ranges of code points meets a run of blank characters. -/
def Visible (ranges : List (Nat × Nat)) : Prop :=
  ∀ range ∈ ranges, ∀ run ∈ blankRuns, run.2 < range.1 ∨ range.2 < run.1

instance (ranges : List (Nat × Nat)) : Decidable (Visible ranges) :=
  inferInstanceAs
    (Decidable (∀ range ∈ ranges, ∀ run ∈ blankRuns, run.2 < range.1 ∨ range.2 < run.1))

/-- Two lists of ranges without blanks together have none either. -/
theorem Visible.append {first second : List (Nat × Nat)} (front : Visible first)
    (back : Visible second) : Visible (first ++ second) :=
  List.forall_mem_append.mpr ⟨front, back⟩

/-- A range without blanks that is extended by such ranges stays without. -/
theorem Visible.extendRange {first last : Nat} {rest : List (Nat × Nat)}
    (visible : Visible ((first, last) :: rest)) :
    Visible (CharSet.extendRange first last rest) := by
  -- The induction is on the ranges behind, each of which extends the first or stands apart.
  induction rest generalizing first last with
  | nil => exact visible
  | cons next rest ih =>
    obtain ⟨here, there, further⟩ :=
      (List.forall_mem_cons.mp visible).imp_right List.forall_mem_cons.mp
    simp only [CharSet.extendRange]
    split
    · -- Where ranges touch, there is no room for a run between them.
      refine ih (List.forall_mem_cons.mpr ⟨fun run listed => ?_, further⟩)
      have proper : ∀ run ∈ blankRuns, run.1 ≤ run.2 := by decide
      have room := proper run listed
      have apart := here run listed
      have also := there run listed
      simp only at apart ⊢
      omega
    · exact List.forall_mem_cons.mpr ⟨here, ih (List.forall_mem_cons.mpr ⟨there, further⟩)⟩

/-- Ranges without blanks make up a set without blanks. -/
theorem Visible.ofRanges {ranges : List (Nat × Nat)} (visible : Visible ranges) :
    Visible (CharSet.ofRanges ranges).ranges := by
  -- The ranges are put in order first, which keeps each of them.
  have sorted : Visible (ranges.mergeSort fun left right => left.1 ≤ right.1) :=
    fun range member => visible range (List.mem_mergeSort.mp member)
  rw [CharSet.ofRanges]
  revert sorted
  cases ranges.mergeSort fun left right => left.1 ≤ right.1 with
  | nil => exact id
  | cons first rest => exact Visible.extendRange

/-- A set without blanks contains no blank character. -/
theorem Visible.contains_eq_false {set : CharSet} (visible : Visible set.ranges) {letter : Char}
    (blank : isBlank letter = true) : set.contains letter = false := by
  obtain ⟨run, listed, first, last⟩ := isBlankCode_of_isBlank blank
  -- The search goes through the ranges in order, and none of them holds the code point.
  rw [CharSet.contains, CharSet.hasCode]
  revert visible
  generalize set.ranges = ranges
  intro visible
  induction ranges with
  | nil => rfl
  | cons range rest ih =>
    obtain ⟨here, further⟩ := List.forall_mem_cons.mp visible
    have apart := here run listed
    simp only [CharSet.rangesHave, ih further]
    split
    · rfl
    · rw [if_neg (by omega)]

/-- A table lists no blank character if the ranges that are read from its letters hold none. -/
theorem visible_ofTable {letters : List Char}
    (visible : Visible (CharSet.readRuns 0 (words letters))) :
    Visible (CharSet.ofTable (String.ofList letters)).ranges := by
  -- A table is read from the letters of its text.
  rwa [CharSet.ofTable, String.toList_ofList]

section Tables

set_option maxRecDepth 100000

/-- No alphabetic character is blank. -/
theorem visible_alphabeticSet : Visible alphabeticSet.ranges := by
  simp only [alphabeticSet, tableNamed?, propertyTables]
  -- The alphabetic characters are the second of the tables.
  rw [List.find?_cons_of_neg (by decide), List.find?_cons_of_pos (by decide)]
  refine visible_ofTable ?_
  decide +kernel

/-- No letter that the tables do not list yet is blank. -/
theorem visible_newerLetters : Visible newerLetters.ranges := by
  -- These letters have a table of their own.
  refine visible_ofTable ?_
  decide +kernel

/-- No number that the tables do not list yet is blank. -/
theorem visible_newerNumbers : Visible newerNumbers.ranges := by
  -- These numbers have a table of their own.
  refine visible_ofTable ?_
  decide +kernel

/-- No number is blank. -/
theorem visible_numbers : Visible ((category? "n").getD .empty).ranges := by
  have parts : category? "n" = some (CharSet.ofRanges (["nd", "nl", "no"].flatMap fun part =>
      ((simpleCategory? part).getD .empty).ranges)) := rfl
  rw [parts, Option.getD_some]
  -- Each of the three kinds of numbers has a table of its own.
  refine Visible.ofRanges ?_
  simp only [List.flatMap_cons, List.flatMap_nil, List.append_nil]
  refine Visible.append ?_ (Visible.append ?_ ?_)
  all_goals
    rw [simpleCategory?, if_neg (by decide), tableNamed?, categoryTables]
    repeat rw [List.find?_cons_of_neg (by decide)]
    rw [List.find?_cons_of_pos (by decide)]
    refine visible_ofTable ?_
    decide +kernel

end Tables

/-- No alphabetic character or number is blank. -/
theorem isAlphanumeric_of_isBlank {letter : Char} (blank : isBlank letter = true) :
    isAlphanumeric letter = false := by
  rw [isAlphanumeric]
  split
  · -- The blank characters of ASCII are few.
    rename_i ascii
    have few : ∀ code < 0x80, IsBlankCode code → (Char.ofNat code).isAlphanum = false := by decide
    rw [← Char.ofNat_toNat letter]
    exact few letter.toNat ascii (isBlankCode_of_isBlank blank)
  · -- Beyond ASCII a letter is looked up in four sets, none of which has a blank in it.
    have alphanumeric : Visible alphanumericSet.ranges :=
      (visible_alphabeticSet.append visible_numbers).ofRanges
    rw [alphanumeric.contains_eq_false blank, visible_newerLetters.contains_eq_false blank,
      visible_newerNumbers.contains_eq_false blank]
    rfl

end Text

namespace Path

/-- No letter of a name is blank. -/
theorem isBlank_of_isNameLetter {letter : Char} (ofName : isNameLetter letter = true) :
    Text.isBlank letter = false := by
  rw [← Bool.not_eq_true]
  intro blank
  rw [isNameLetter, Text.isAlphanumeric_of_isBlank blank] at ofName
  -- The two marks that names may hold are not blank either.
  have mark : letter = '_' ∨ letter = '$' := by simpa using ofName
  rcases mark with rfl | rfl <;> exact absurd blank (by decide)

/-- A name has no blank at its ends. -/
theorem isTrimmed_of_isName {letters : List Char} (named : IsName letters) :
    Text.IsTrimmed letters :=
  Text.isTrimmed_of_forall fun letter member => isBlank_of_isNameLetter (named.2 letter member)

/-- A writable key is written without a blank at its ends. -/
theorem isTrimmed_segment {key : ChildKey} (writable : key.IsWritable) :
    Text.IsTrimmed key.segment.toList := by
  cases key with
  | position index => exact isTrimmed_position index
  | member name =>
    -- A dot and a name have no blank at their ends, and so has one behind the other.
    have dot : Text.IsTrimmed ['.'] :=
      Text.isTrimmed_of_forall (List.forall_mem_singleton.mpr (by decide))
    simpa [ChildKey.segment] using dot.append (isTrimmed_of_isName writable)

/-- Nothing is cut from the text of a well-formed path. -/
theorem WellFormed.trim_text {path : Path} (wellFormed : path.WellFormed) :
    Text.trim path.text = path.text := by
  have segments : ∀ keys : List ChildKey, (∀ key ∈ keys, key.IsWritable) →
      Text.IsTrimmed (keys.flatMap fun key => key.segment.toList) := by
    intro keys writable
    -- Texts without blanks at their ends have none at their ends when they are joined.
    induction keys with
    | nil => exact ⟨nofun, nofun⟩
    | cons key rest ih =>
      obtain ⟨first, others⟩ := List.forall_mem_cons.mp writable
      exact (isTrimmed_segment first).append (ih others)
  rw [Text.trim_eq_self_iff, text, toList_foldl_segment]
  exact (isTrimmed_of_isName wellFormed.root).append (segments path.keys wellFormed.keys)

end Path

end Inspection
