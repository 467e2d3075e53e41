import Mathlib.Data.List.DropRight
import Inspection.Text.Blank
import Inspection.Text.Decimal

/-! Cutting blanks leaves what stands between them, and a number is read as it is written. -/

namespace Inspection.Text

section Blanks

/-- Letters that are blank throughout. -/
def IsBlankRun (letters : List Char) : Prop := ∀ letter ∈ letters, isBlank letter = true

/-- Letters that neither begin nor end with a blank. -/
def IsTrimmed (letters : List Char) : Prop :=
  (∀ letter ∈ letters.head?, isBlank letter = false) ∧
    ∀ letter ∈ letters.getLast?, isBlank letter = false

/-- Letters that can all be seen have no blank at their ends. -/
theorem isTrimmed_of_forall {letters : List Char}
    (visible : ∀ letter ∈ letters, isBlank letter = false) : IsTrimmed letters :=
  ⟨fun letter first => visible letter (List.mem_of_head? first),
    fun letter last => visible letter (List.mem_of_getLast? last)⟩

/-- Letters that do not begin with a blank lose none at their front. -/
theorem dropWhile_isBlank_of_head {letters : List Char}
    (visible : ∀ letter ∈ letters.head?, isBlank letter = false) :
    letters.dropWhile isBlank = letters := by
  -- Cutting stops at the first letter that is no blank.
  cases letters with
  | nil => rfl
  | cons letter rest =>
    exact List.dropWhile_cons_of_neg (by rw [visible letter rfl]; exact Bool.false_ne_true)

/-- Blanks are cut from the end as they are from the front, of the reversed letters. -/
theorem trimEndList_eq (isCut : Char → Bool) (letters : List Char) :
    trimEndList isCut letters = letters.rdropWhile isCut := rfl

/-- Letters that do not end with a blank lose none at their end. -/
theorem trimEndList_of_getLast {letters : List Char}
    (visible : ∀ letter ∈ letters.getLast?, isBlank letter = false) :
    trimEndList isBlank letters = letters := by
  -- The last letter is the first of the reversed letters, so nothing is cut there.
  have reversed : ∀ letter ∈ letters.reverse.head?, isBlank letter = false := by
    rw [List.head?_reverse]
    exact visible
  rw [trimEndList, dropWhile_isBlank_of_head reversed, List.reverse_reverse]

/-- What has no blank at its ends is all that is left of it. -/
theorem trimList_of_isTrimmed {letters : List Char} (trimmed : IsTrimmed letters) :
    trimList letters = letters := by
  rw [trimList, dropWhile_isBlank_of_head trimmed.1, trimEndList_of_getLast trimmed.2]

/-- Blanks behind the letters are cut. -/
theorem trimEndList_append {after : List Char} (blank : IsBlankRun after) (letters : List Char) :
    trimEndList isBlank (letters ++ after) = trimEndList isBlank letters := by
  -- In the reversed letters the blanks stand in front.
  have reversed : ∀ letter ∈ after.reverse, isBlank letter = true :=
    fun letter mem => blank letter (List.mem_reverse.mp mem)
  rw [trimEndList, List.reverse_append, List.dropWhile_append_of_pos reversed, trimEndList]

/-- Blanks on both sides are cut and nothing else is. -/
theorem trimList_between {before core after : List Char} (blankBefore : IsBlankRun before)
    (trimmed : IsTrimmed core) (blankAfter : IsBlankRun after) :
    trimList (before ++ core ++ after) = core := by
  rw [trimList, List.append_assoc, List.dropWhile_append_of_pos blankBefore]
  cases core with
  | nil =>
    -- Without a core the blanks in front are followed by those behind.
    have nothing : after.dropWhile isBlank = [] := List.dropWhile_eq_nil_iff.mpr blankAfter
    rw [List.nil_append, nothing]
    rfl
  -- A core begins with a letter that can be seen, so the cut in front stops at it.
  | cons letter rest =>
    have kept : (letter :: rest ++ after).dropWhile isBlank = letter :: rest ++ after :=
      dropWhile_isBlank_of_head trimmed.1
    rw [kept, trimEndList_append blankAfter, trimEndList_of_getLast trimmed.2]

/-- The letters are blanks, what trimming leaves, and blanks. -/
theorem exists_blanks_around (letters : List Char) :
    ∃ before after, IsBlankRun before ∧ IsBlankRun after ∧
      letters = before ++ trimList letters ++ after := by
  -- The blanks are the runs that are cut in front and, of what is left then, at the end.
  refine ⟨letters.takeWhile isBlank, (letters.dropWhile isBlank).rtakeWhile isBlank, ?_, ?_, ?_⟩
  · exact fun letter mem => List.mem_takeWhile_imp mem
  · exact fun letter mem => List.mem_rtakeWhile_imp mem
  · rw [trimList, trimEndList_eq, List.append_assoc, List.rdropWhile_append_rtakeWhile,
      List.takeWhile_append_dropWhile]

/-- What trimming leaves neither begins nor ends with a blank. -/
theorem isTrimmed_trimList (letters : List Char) : IsTrimmed (trimList letters) := by
  rw [trimList, trimEndList_eq]
  constructor
  · intro letter first
    -- What is cut at the end leaves the first letter in its place.
    obtain ⟨cut, rest⟩ := List.rdropWhile_prefix isBlank (letters.dropWhile isBlank)
    have kept : (letters.dropWhile isBlank).head? = some letter := by
      rw [← rest, List.head?_append, Option.mem_def.mp first, Option.some_or]
    have stops := List.head?_dropWhile_not isBlank letters
    rw [kept] at stops
    simpa using stops
  · intro letter last
    -- The cut at the end stops at a letter that is no blank.
    obtain ⟨nonempty, rfl⟩ := List.mem_getLast?_eq_getLast last
    simpa using List.rdropWhile_last_not isBlank _ nonempty

/-- Trimmed letters can be joined. -/
theorem IsTrimmed.append {front back : List Char} (first : IsTrimmed front)
    (second : IsTrimmed back) : IsTrimmed (front ++ back) := by
  -- Each end of the joined letters is an end of one part, of the other if that part is empty.
  constructor
  · intro letter member
    rw [List.head?_append, Option.mem_def, Option.or_eq_some_iff] at member
    rcases member with inFront | ⟨_, behind⟩
    · exact first.1 letter inFront
    · exact second.1 letter behind
  · intro letter member
    rw [List.getLast?_append, Option.mem_def, Option.or_eq_some_iff] at member
    rcases member with behind | ⟨_, inFront⟩
    · exact second.2 letter behind
    · exact first.2 letter inFront

/-- A text is left as it is exactly if it has no blank at its ends. -/
theorem trim_eq_self_iff {text : String} : trim text = text ↔ IsTrimmed text.toList := by
  -- What trimming leaves is trimmed, and trimming leaves it.
  rw [trim, ← String.toList_inj, String.toList_ofList]
  exact ⟨fun same => same ▸ isTrimmed_trimList text.toList, trimList_of_isTrimmed⟩

end Blanks

section Numerals

/-- The digits of a run are read on from a value, and nothing but digits is. -/
theorem foldlM_digits_eq_some_iff {digits : List Char} {start value : Nat} :
    digits.foldlM (fun value digit =>
      if digit.isDigit then some (value * 10 + (digit.toNat - '0'.toNat)) else none) start
        = some value ↔
      (∀ digit ∈ digits, digit.isDigit = true) ∧ Nat.ofDigitChars 10 digits start = value := by
  -- The induction is on the letters, the first of which is a digit or ends the reading.
  induction digits generalizing start with
  | nil => simp
  | cons digit rest ih =>
    rw [List.foldlM_cons]
    by_cases isDigit : digit.isDigit = true
    · rw [if_pos isDigit, Option.bind_eq_bind, Option.bind_some, ih, Nat.ofDigitChars_cons,
        Nat.mul_comm 10, List.forall_mem_cons, and_iff_right isDigit]
    · simp [isDigit]

/-- A digit run is read as the number that it writes. -/
theorem digitsValue?_eq_some_iff {digits : List Char} {value : Nat} :
    digitsValue? digits = some value ↔
      digits ≠ [] ∧ (∀ digit ∈ digits, digit.isDigit = true) ∧
        Nat.ofDigitChars 10 digits 0 = value := by
  -- No digits at all are refused, and any others are read on from zero.
  rw [digitsValue?]
  cases digits with
  | nil => simp
  | cons digit rest => rw [if_neg (by simp), foldlM_digits_eq_some_iff]; simp

/-- The writings of a number: decimal digits after a plus sign that may be left out. -/
inductive SpellsNumber (value : Nat) : List Char → Prop where
  | plain {digits : List Char} (nonempty : digits ≠ [])
      (decimal : ∀ digit ∈ digits, digit.isDigit = true)
      (reads : Nat.ofDigitChars 10 digits 0 = value) : SpellsNumber value digits
  | signed {digits : List Char} (nonempty : digits ≠ [])
      (decimal : ∀ digit ∈ digits, digit.isDigit = true)
      (reads : Nat.ofDigitChars 10 digits 0 = value) : SpellsNumber value ('+' :: digits)

/-- A number is read from exactly its writings, if it fits into 64 bits. -/
theorem natural64?_eq_some_iff {letters : List Char} {value : Nat} :
    natural64? letters = some value ↔
      SpellsNumber value letters ∧ value < 0x10000000000000000 := by
  -- Without its sign a number is its digits, kept below two to the sixty-four.
  have unsigned (digits : List Char) :
      (digitsValue? digits).filter (· < 0x10000000000000000) = some value ↔
        (digits ≠ [] ∧ (∀ digit ∈ digits, digit.isDigit = true) ∧
          Nat.ofDigitChars 10 digits 0 = value) ∧ value < 0x10000000000000000 := by
    rw [Option.filter_eq_some_iff, digitsValue?_eq_some_iff, decide_eq_true_iff]
  unfold natural64?
  constructor
  · -- The sign is cut off where there is one.
    intro read
    split at read
    · obtain ⟨⟨nonempty, decimal, reads⟩, fits⟩ := (unsigned _).mp read
      exact ⟨.signed nonempty decimal reads, fits⟩
    · obtain ⟨⟨nonempty, decimal, reads⟩, fits⟩ := (unsigned _).mp read
      exact ⟨.plain nonempty decimal reads, fits⟩
  · rintro ⟨spells, fits⟩
    cases spells with
    | plain nonempty decimal reads =>
      split
      · -- A sign is no digit.
        exact absurd (decimal '+' List.mem_cons_self) (by decide)
      · exact (unsigned _).mpr ⟨⟨nonempty, decimal, reads⟩, fits⟩
    | signed nonempty decimal reads => exact (unsigned _).mpr ⟨⟨nonempty, decimal, reads⟩, fits⟩

/-- A digit is no blank. -/
theorem isBlank_of_isDigit {letter : Char} (isDigit : letter.isDigit = true) :
    isBlank letter = false := by
  rw [Char.isDigit_iff_toNat] at isDigit
  obtain ⟨low, high⟩ := isDigit
  -- The digits lie between two of the blanks.
  simp only [isBlank]
  grind

/-- A written number has no blanks in it. -/
theorem SpellsNumber.visible {value : Nat} {letters : List Char}
    (spells : SpellsNumber value letters) : ∀ letter ∈ letters, isBlank letter = false := by
  -- A number is written in digits, but for the sign that may stand in front.
  cases spells with
  | plain _ decimal _ => exact fun letter mem => isBlank_of_isDigit (decimal letter mem)
  | signed _ decimal _ =>
    rintro letter (_ | ⟨_, mem⟩)
    · rfl
    · exact isBlank_of_isDigit (decimal letter mem)

/-- The decimal rendering of a number writes it. -/
theorem spellsNumber_toString (value : Nat) : SpellsNumber value (toString value).toList := by
  -- Numbers are rendered in decimal digits without a sign.
  rw [Nat.toString_eq_repr, Nat.toList_repr]
  exact .plain Nat.toDigits_ne_nil
    (fun digit mem => Nat.isDigit_of_mem_toDigits (by decide) (by decide) mem)
    Nat.ofDigitChars_ten_toDigits

end Numerals

end Inspection.Text
