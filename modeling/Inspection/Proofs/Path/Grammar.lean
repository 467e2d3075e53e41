import Inspection.Children.Window
import Inspection.Path
import Inspection.Proofs.Text

/-! Paths are read exactly as their grammar writes them, and every path can be read back. -/

namespace Inspection

/-- A name has letters, and letters of names only. -/
def IsName (letters : List Char) : Prop :=
  letters ≠ [] ∧ ∀ letter ∈ letters, Path.isNameLetter letter = true

instance (letters : List Char) : Decidable (IsName letters) :=
  decidable_of_iff (letters ≠ [] ∧ letters.all Path.isNameLetter = true)
    (and_congr_right' List.all_eq_true)

/-- A key that can be written in a path. -/
def ChildKey.IsWritable : ChildKey → Prop
  | position index => index ≤ maxPosition
  | member name => IsName name.toList

namespace Path

/-- A position between brackets: a number that fits into a word, with blanks around it. -/
def SpellsPosition (index : Nat) (letters : List Char) : Prop :=
  ∃ before number after, Text.IsBlankRun before ∧ Text.SpellsNumber index number ∧
    Text.IsBlankRun after ∧ index ≤ maxPosition ∧ letters = before ++ number ++ after

/-- A rest with which no run of name letters goes on. -/
def EndsName (rest : List Char) : Prop := ∀ letter ∈ rest.head?, isNameLetter letter = false

/-- The writings of a walk, one key after the other. -/
inductive Spells : List ChildKey → List Char → Prop where
  | nil : Spells [] []
  | member {name rest : List Char} {keys : List ChildKey} (named : IsName name)
      (longest : EndsName rest) (spells : Spells keys rest) :
      Spells (.member (String.ofList name) :: keys) ('.' :: (name ++ rest))
  | position {index : Nat} {inside rest : List Char} {keys : List ChildKey}
      (bracketed : SpellsPosition index inside) (spells : Spells keys rest) :
      Spells (.position index :: keys) ('[' :: (inside ++ ']' :: rest))

/-- A text spells a path if it is the root's name and then the walk. -/
def SpelledBy (path : Path) (text : String) : Prop :=
  IsName path.root.toList ∧
    ∃ rest, text.toList = path.root.toList ++ rest ∧ Spells path.keys rest

/-- A path that can be written: a named root and writable keys. -/
structure WellFormed (path : Path) : Prop where
  root : IsName path.root.toList
  keys : ∀ key ∈ path.keys, key.IsWritable

section Runs

/-- A run ends where its letters do, if the rest does not go on with it. -/
theorem takeWhile_run {test : Char → Bool} {run rest : List Char}
    (inside : ∀ letter ∈ run, test letter = true)
    (outside : ∀ letter ∈ rest.head?, test letter = false) :
    (run ++ rest).takeWhile test = run := by
  -- The run is taken whole, and the first letter behind it is refused.
  rw [List.takeWhile_append_of_pos inside]
  cases rest with
  | nil => simp
  | cons letter rest => simp [outside letter rfl]

/-- Behind a run stands the rest. -/
theorem dropWhile_run {test : Char → Bool} {run rest : List Char}
    (inside : ∀ letter ∈ run, test letter = true)
    (outside : ∀ letter ∈ rest.head?, test letter = false) :
    (run ++ rest).dropWhile test = rest := by
  -- The run is dropped whole, and the first letter behind it stays.
  rw [List.dropWhile_append_of_pos inside]
  cases rest with
  | nil => rfl
  | cons letter rest => simp [outside letter rfl]

/-- What follows a longest run does not go on with it. -/
theorem head?_dropWhile {test : Char → Bool} (letters : List Char) :
    ∀ letter ∈ (letters.dropWhile test).head?, test letter = false := by
  intro letter first
  have stops := List.head?_dropWhile_not test letters
  rw [Option.mem_def.mp first] at stops
  simpa using stops

/-- The leading run of name letters is a name, unless it is empty. -/
theorem isName_takeWhile {letters : List Char}
    (nonempty : ¬ (letters.takeWhile isNameLetter).isEmpty = true) :
    IsName (letters.takeWhile isNameLetter) :=
  ⟨fun none => nonempty (List.isEmpty_iff.mpr none), fun _ mem => List.mem_takeWhile_imp mem⟩

/-- The letters of a run before a mark are others than the mark. -/
theorem forall_ne_of_not_mem {mark : Char} {run : List Char} (absent : mark ∉ run) :
    ∀ letter ∈ run, (letter != mark) = true := by
  intro letter mem
  exact bne_iff_ne.mpr fun same => absent (same ▸ mem)

/-- A mark that is not the end of the letters stands behind the run before it. -/
theorem eq_append_of_dropWhile {mark head : Char} {letters after : List Char}
    (found : letters.dropWhile (· != mark) = head :: after) :
    letters = letters.takeWhile (· != mark) ++ mark :: after := by
  -- The first letter that is left over can only be the mark.
  have isMark : (head != mark) = false := head?_dropWhile letters head (by rw [found]; rfl)
  obtain rfl : head = mark := by simpa using isMark
  rw [← found, List.takeWhile_append_dropWhile]

/-- The run before a mark does not hold it. -/
theorem not_mem_takeWhile (mark : Char) (letters : List Char) :
    mark ∉ letters.takeWhile (· != mark) := by
  intro mem
  simpa using List.mem_takeWhile_imp mem

end Runs

section Positions

/-- A position is read from exactly its writings. -/
theorem position?_eq_some_iff {letters : List Char} {index : Nat} :
    position? letters = some index ↔ SpellsPosition index letters := by
  rw [position?, Text.natural64?_eq_some_iff]
  constructor
  · -- The blanks around a number are those that trimming takes away.
    rintro ⟨spells, fits⟩
    obtain ⟨before, after, blankBefore, blankAfter, around⟩ := Text.exists_blanks_around letters
    exact ⟨before, _, after, blankBefore, spells, blankAfter, Nat.le_of_lt_succ fits, around⟩
  · -- A number has no blank in it, so trimming leaves just the number.
    rintro ⟨before, number, after, blankBefore, spells, blankAfter, fits, rfl⟩
    rw [Text.trimList_between blankBefore (Text.isTrimmed_of_forall spells.visible) blankAfter]
    exact ⟨spells, Nat.lt_succ_of_le fits⟩

/-- A written position closes no bracket. -/
theorem SpellsPosition.closing_not_mem {index : Nat} {letters : List Char}
    (spells : SpellsPosition index letters) : ']' ∉ letters := by
  -- The bracket is no blank, no sign and no digit, and nothing else stands in a position.
  obtain ⟨before, number, after, blankBefore, written, blankAfter, -, rfl⟩ := spells
  have visible : Text.isBlank ']' = false := by decide
  simp only [List.mem_append, not_or]
  refine ⟨⟨fun mem => ?_, fun mem => ?_⟩, fun mem => ?_⟩
  · exact Bool.false_ne_true (visible.symm.trans (blankBefore _ mem))
  · cases written with
    | plain _ decimal _ => exact absurd (decimal _ mem) (by decide)
    | signed _ decimal _ =>
      obtain sign | mem := List.mem_cons.mp mem
      · exact absurd sign (by decide)
      · exact absurd (decimal _ mem) (by decide)
  · exact Bool.false_ne_true (visible.symm.trans (blankAfter _ mem))

/-- The decimal rendering of a position spells it. -/
theorem spellsPosition_toString {index : Nat} (fits : index ≤ maxPosition) :
    SpellsPosition index (toString index).toList :=
  ⟨[], _, [], by simp [Text.IsBlankRun], Text.spellsNumber_toString index,
    by simp [Text.IsBlankRun], fits, by simp⟩

end Positions

section Keys

@[simp] theorem keys?_nil : keys? [] = some [] := by rw [keys?]

/-- A dot wants a name behind it. -/
theorem keys?_unnamed {rest : List Char} (ends : EndsName rest) : keys? ('.' :: rest) = none := by
  -- The run of name letters behind the dot is empty.
  have nothing : rest.takeWhile isNameLetter = [] :=
    @takeWhile_run _ [] rest (List.forall_mem_nil _) ends
  rw [keys?, nothing]
  rfl

/-- After a dot the longest name is read. -/
theorem keys?_member {name rest : List Char} (named : IsName name) (longest : EndsName rest) :
    keys? ('.' :: (name ++ rest)) =
      (keys? rest).map (.member (String.ofList name) :: ·) := by
  -- The run is the name and what is left is the rest, since no name letter stands at its head.
  rw [keys?, takeWhile_run named.2 longest, afterName, dropWhile_run named.2 longest,
    if_neg (by simpa using named.1)]
  cases keys? rest <;> rfl

/-- A bracket that is closed holds a position. -/
theorem keys?_position {inside : List Char} (absent : ']' ∉ inside) (rest : List Char) :
    keys? ('[' :: (inside ++ ']' :: rest)) =
      (position? inside).bind fun index => (keys? rest).map (.position index :: ·) := by
  -- The first closing bracket is the one that is written, for none stands before it.
  have outside : ∀ letter ∈ (']' :: rest).head?, (letter != ']') = false := by simp
  have behind := dropWhile_run (forall_ne_of_not_mem absent) outside
  have before := takeWhile_run (forall_ne_of_not_mem absent) outside
  rw [keys?]
  split
  · next unclosed => rw [behind] at unclosed; cases unclosed
  · next _ after closed =>
    -- What was found closed is the rest behind this bracket.
    obtain ⟨rfl, rfl⟩ := List.cons.inj (behind.symm.trans closed)
    rw [before]
    cases position? inside with
    | none => rfl
    | some index => cases keys? rest <;> rfl

/-- A bracket that stays open holds nothing. -/
theorem keys?_unclosed {rest : List Char} (absent : ']' ∉ rest) : keys? ('[' :: rest) = none := by
  -- Without a closing bracket all letters are dropped in search of one.
  have nothing : rest.dropWhile (· != ']') = [] :=
    List.dropWhile_eq_nil_iff.mpr (forall_ne_of_not_mem absent)
  rw [keys?]
  split
  · rfl
  · next _ after closed => rw [nothing] at closed; cases closed

/-- Nothing else begins a key. -/
theorem keys?_other {letter : Char} (noDot : letter ≠ '.') (noBracket : letter ≠ '[')
    (rest : List Char) : keys? (letter :: rest) = none := by
  rw [keys?]
  · exact noDot
  · exact noBracket

/-- A walk is read one key after the other, until it ends or something else stands there. -/
theorem reading_induct {motive : List Char → Prop} (nil : motive [])
    (unnamed : ∀ rest, EndsName rest → motive ('.' :: rest))
    (member : ∀ name rest, IsName name → EndsName rest → motive rest →
      motive ('.' :: (name ++ rest)))
    (unclosed : ∀ rest, ']' ∉ rest → motive ('[' :: rest))
    (position : ∀ inside rest, ']' ∉ inside → motive rest → motive ('[' :: (inside ++ ']' :: rest)))
    (other : ∀ letter rest, letter ≠ '.' → letter ≠ '[' → motive (letter :: rest))
    (letters : List Char) : motive letters := by
  -- The cases are those of reading, with each run cut out of the letters by name.
  refine keys?.induct motive nil (fun rest empty => unnamed rest ?_)
    (fun rest nonempty ih => ?_) (fun rest ended => unclosed rest ?_)
    (fun rest head after closed ih => ?_) other letters
  · -- An empty run leaves all letters behind it.
    have whole := List.takeWhile_append_dropWhile (p := isNameLetter) (l := rest)
    rw [List.isEmpty_iff.mp empty, List.nil_append] at whole
    exact whole ▸ head?_dropWhile rest
  · -- The run that was read and what is left make up all the letters.
    have read := member _ _ (isName_takeWhile nonempty) (head?_dropWhile rest) ih
    rwa [List.takeWhile_append_dropWhile] at read
  · exact fun mem => by simpa using List.dropWhile_eq_nil_iff.mp ended _ mem
  · -- What was found behind the run begins with the bracket.
    rw [eq_append_of_dropWhile closed]
    exact position _ _ (not_mem_takeWhile _ _) ih

end Keys

section Grammar

/-- A walk begins with a dot or a bracket, so no name goes on with it. -/
theorem Spells.endsName {keys : List ChildKey} {letters : List Char}
    (spells : Spells keys letters) : EndsName letters := by
  cases spells <;> simp [EndsName] <;> decide

/-- What spells a walk is read as that walk. -/
theorem Spells.keys? {keys : List ChildKey} {letters : List Char}
    (spells : Spells keys letters) : Path.keys? letters = some keys := by
  -- The induction is on the writing, whose cases are those that reading tells apart.
  induction spells with
  | nil => exact keys?_nil
  | member named longest spells ih => rw [keys?_member named longest, ih, Option.map_some]
  | position bracketed spells ih =>
    rw [keys?_position bracketed.closing_not_mem, position?_eq_some_iff.mpr bracketed,
      Option.bind_some, ih, Option.map_some]

/-- Whatever is read as a walk spells it. -/
theorem spells_of_keys? {letters : List Char} {keys : List ChildKey}
    (read : keys? letters = some keys) : Spells keys letters := by
  -- The induction follows the reading; wherever it fails there is nothing to show.
  induction letters using reading_induct generalizing keys with
  | nil =>
    rw [keys?_nil] at read
    cases read
    exact .nil
  | unnamed rest ends =>
    rw [keys?_unnamed ends] at read
    cases read
  -- A name is followed by a walk, or else nothing would have been read.
  | member name rest named longest ih =>
    rw [keys?_member named longest, Option.map_eq_some_iff] at read
    obtain ⟨further, behind, rfl⟩ := read
    exact .member named longest (ih behind)
  | unclosed rest absent =>
    rw [keys?_unclosed absent] at read
    cases read
  | position inside rest absent ih =>
    rw [keys?_position absent, Option.bind_eq_some_iff] at read
    obtain ⟨index, bracketed, read⟩ := read
    obtain ⟨further, behind, rfl⟩ := Option.map_eq_some_iff.mp read
    exact .position (position?_eq_some_iff.mp bracketed) (ih behind)
  | other letter rest noDot noBracket =>
    rw [keys?_other noDot noBracket] at read
    cases read

/-- A walk is read from exactly its writings. -/
theorem keys?_eq_some_iff {letters : List Char} {keys : List ChildKey} :
    keys? letters = some keys ↔ Spells keys letters := ⟨spells_of_keys?, Spells.keys?⟩

/-- A path is read from exactly the texts that spell it. -/
theorem parse?_eq_some_iff {text : String} {path : Path} :
    parse? text = some path ↔ path.SpelledBy text := by
  rw [parse?]
  constructor
  · -- The text is cut at the end of its leading name, which has to be there.
    intro read
    split at read
    · cases read
    · next nonempty =>
      obtain ⟨keys, walk, made⟩ := Option.bind_eq_some_iff.mp read
      obtain rfl := Option.some.inj made
      refine ⟨by simpa using isName_takeWhile nonempty, _, ?_, keys?_eq_some_iff.mp walk⟩
      rw [String.toList_ofList, afterName, List.takeWhile_append_dropWhile]
  · -- No name letter begins a walk, so the leading name is the root and the rest is the walk.
    rintro ⟨named, rest, written, spells⟩
    have leading := takeWhile_run named.2 spells.endsName
    have behind := dropWhile_run named.2 spells.endsName
    rw [written, leading, afterName, behind, keys?_eq_some_iff.mpr spells,
      if_neg (by simpa using named.1)]
    simp

/-- A text that spells no path is read as none. -/
theorem parse?_eq_none_iff {text : String} :
    parse? text = none ↔ ∀ path : Path, ¬ path.SpelledBy text := by
  simp only [Option.eq_none_iff_forall_ne_some, ne_eq, parse?_eq_some_iff]

end Grammar

section Canonical

/-- A key that is read could be written again. -/
theorem Spells.writable {keys : List ChildKey} {letters : List Char}
    (spells : Spells keys letters) : ∀ key ∈ keys, key.IsWritable := by
  -- The induction is on the writing: names are names, and positions fit into a word.
  induction spells with
  | nil => simp
  | member named _ _ ih =>
    exact List.forall_mem_cons.mpr ⟨by simpa [ChildKey.IsWritable] using named, ih⟩
  | position bracketed _ ih =>
    obtain ⟨_, _, _, _, _, _, fits, _⟩ := bracketed
    exact List.forall_mem_cons.mpr ⟨fits, ih⟩

/-- A text spells well-formed paths only. -/
theorem SpelledBy.wellFormed {path : Path} {text : String} (spelled : path.SpelledBy text) :
    path.WellFormed := by
  obtain ⟨named, rest, -, spells⟩ := spelled
  exact ⟨named, spells.writable⟩

/-- A path begins with a letter of its root's name. -/
theorem SpelledBy.head {path : Path} {text : String} (spelled : path.SpelledBy text) :
    ∀ letter ∈ text.toList.head?, isNameLetter letter = true := by
  -- The root's name is not empty, so the first letter is one of its own.
  obtain ⟨⟨nonempty, letters⟩, rest, written, -⟩ := spelled
  intro letter first
  rw [written, List.head?_append_of_ne_nil _ nonempty] at first
  exact letters letter (List.mem_of_head? first)

/-- A key's segment spells it in front of any walk. -/
theorem Spells.segment {key : ChildKey} {keys : List ChildKey} {letters : List Char}
    (writable : key.IsWritable) (spells : Spells keys letters) :
    Spells (key :: keys) (key.segment.toList ++ letters) := by
  -- A name is ended by the walk behind it, and a position by its bracket.
  cases key with
  | member name =>
    simpa [ChildKey.segment] using Spells.member writable spells.endsName spells
  | position index =>
    simpa [ChildKey.segment, ChildKey.text] using
      Spells.position (spellsPosition_toString writable) spells

/-- Two walks can be written one behind the other. -/
theorem Spells.append {front back : List ChildKey} {letters rest : List Char}
    (spells : Spells front letters) (further : Spells back rest) :
    Spells (front ++ back) (letters ++ rest) := by
  -- The induction is on the walk in front; a name in it is ended as before, or by the other walk.
  induction spells with
  | nil => exact further
  | member named longest spells ih =>
    simpa using Spells.member named ih.endsName ih
  | position bracketed spells ih => simpa using Spells.position bracketed ih

/-- A bracketed position has no blank at its ends. -/
theorem isTrimmed_position (index : Nat) :
    Text.IsTrimmed (ChildKey.position index).segment.toList := by
  -- Brackets and digits are no blanks.
  have opens : Text.IsTrimmed ['['] :=
    Text.isTrimmed_of_forall (List.forall_mem_singleton.mpr (by decide))
  have closes : Text.IsTrimmed [']'] :=
    Text.isTrimmed_of_forall (List.forall_mem_singleton.mpr (by decide))
  have digits := Text.isTrimmed_of_forall (Text.spellsNumber_toString index).visible
  simpa [ChildKey.segment, ChildKey.text] using (opens.append digits).append closes

/-- A text that spells a path is continued by the segment of a key. -/
theorem SpelledBy.segment {path : Path} {text : String} {key : ChildKey}
    (spelled : path.SpelledBy text) (writable : key.IsWritable) :
    SpelledBy ⟨path.root, path.keys ++ [key]⟩ (text ++ key.segment) := by
  -- The walk is continued by the one key, and the root stays.
  obtain ⟨named, rest, written, spells⟩ := spelled
  refine ⟨named, rest ++ key.segment.toList, ?_, ?_⟩
  · rw [String.toList_append, written, List.append_assoc]
  · simpa using spells.append (Spells.segment writable .nil)

/-- The text of a walk from some text on. -/
theorem toList_foldl_segment (keys : List ChildKey) (walked : String) :
    (keys.foldl (fun walked key => walked ++ key.segment) walked).toList =
      walked.toList ++ keys.flatMap fun key => key.segment.toList := by
  -- The induction is on the keys, from the text that the first one leaves.
  induction keys generalizing walked with
  | nil => simp
  | cons key rest ih => simp [ih]

/-- The segments of writable keys spell them. -/
theorem spells_segments {keys : List ChildKey} (writable : ∀ key ∈ keys, key.IsWritable) :
    Spells keys (keys.flatMap fun key => key.segment.toList) := by
  -- The induction is on the keys, each written in front of the others.
  induction keys with
  | nil => exact .nil
  | cons key rest ih =>
    obtain ⟨first, others⟩ := List.forall_mem_cons.mp writable
    exact .segment first (ih others)

/-- A well-formed path is spelled by its own text. -/
theorem WellFormed.spelledBy_text {path : Path} (wellFormed : path.WellFormed) :
    path.SpelledBy path.text :=
  ⟨wellFormed.root, _, toList_foldl_segment _ _, spells_segments wellFormed.keys⟩

/-- The text of a well-formed path is read as that path. -/
theorem WellFormed.parse?_text {path : Path} (wellFormed : path.WellFormed) :
    parse? path.text = some path :=
  parse?_eq_some_iff.mpr wellFormed.spelledBy_text

end Canonical

end Path

end Inspection
