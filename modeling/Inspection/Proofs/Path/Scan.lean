import Inspection.Proofs.Path.Grammar

/-! A scan that cuts at byte offsets never cuts a letter apart and reads what a walk is read as. -/

namespace Inspection.Path

section Bytes

/-- The number of bytes that letters take. -/
def byteLength : List Char → Nat
  | [] => 0
  | letter :: rest => letter.utf8Size + byteLength rest

/-- Cuts letters at a byte offset; an offset inside a letter or past the end cuts nothing. -/
def cut? (offset : Nat) (letters : List Char) : Option (List Char × List Char) :=
  if offset = 0 then some ([], letters)
  else match letters with
    | [] => none
    | letter :: rest =>
      if offset < letter.utf8Size then none
      else (cut? (offset - letter.utf8Size) rest).map fun (front, back) => (letter :: front, back)

/-- The byte offset of the first letter that passes a test. -/
def offset? (test : Char → Bool) : List Char → Option Nat
  | [] => none
  | letter :: rest =>
    if test letter then some 0 else (offset? test rest).map (letter.utf8Size + ·)

@[simp] theorem byteLength_nil : byteLength [] = 0 := rfl

@[simp] theorem byteLength_cons (letter : Char) (rest : List Char) :
    byteLength (letter :: rest) = letter.utf8Size + byteLength rest := rfl

/-- No letter is without bytes. -/
theorem byteLength_eq_zero_iff {letters : List Char} : byteLength letters = 0 ↔ letters = [] := by
  -- Every letter takes at least one byte.
  cases letters with
  | nil => simp
  | cons letter rest => simp [letter.utf8Size_pos.ne']

/-- The bytes of letters are those of their text. -/
theorem utf8ByteSize_ofList (letters : List Char) :
    (String.ofList letters).utf8ByteSize = byteLength letters := by
  -- The induction is on the letters, each of which adds its own bytes.
  induction letters with
  | nil => rfl
  | cons letter rest ih =>
    rw [byteLength_cons, ← ih, String.ofList_cons, String.utf8ByteSize_append,
      String.utf8ByteSize_singleton]

/-- A cut splits the letters in two, the first part as long as the offset says. -/
theorem cut?_eq_some_iff {offset : Nat} {letters front back : List Char} :
    cut? offset letters = some (front, back) ↔
      letters = front ++ back ∧ byteLength front = offset := by
  -- The cases are those of cutting: at once, past the end, inside a letter, or behind one.
  fun_induction cut? offset letters generalizing front back with
  | case1 letters =>
    constructor
    · rintro ⟨⟩
      exact ⟨rfl, rfl⟩
    · rintro ⟨rfl, none⟩
      rw [byteLength_eq_zero_iff.mp none]
      rfl
  | case2 offset positive =>
    constructor
    · rintro ⟨⟩
    · -- Past the end there are no letters left that the first part could hold.
      rintro ⟨split, rfl⟩
      obtain ⟨rfl, rfl⟩ := List.append_eq_nil_iff.mp split.symm
      exact absurd rfl positive
  | case3 offset positive letter rest within =>
    constructor
    · rintro ⟨⟩
    · rintro ⟨split, rfl⟩
      -- A first part with letters is at least as long as its first letter.
      obtain ⟨rfl, -⟩ | ⟨front, rfl, -⟩ := List.cons_eq_append_iff.mp split
      · exact absurd rfl positive
      · exact absurd within (by simp)
  | case4 offset positive letter rest beyond ih =>
    rw [Option.map_eq_some_iff]
    constructor
    · -- The letter that was stepped over is the first of the first part.
      rintro ⟨⟨shorter, back⟩, found, made⟩
      cases made
      obtain ⟨rfl, length⟩ := ih.mp found
      exact ⟨rfl, by rw [byteLength_cons]; omega⟩
    · rintro ⟨split, rfl⟩
      obtain ⟨rfl, -⟩ | ⟨front, rfl, rfl⟩ := List.cons_eq_append_iff.mp split
      · exact absurd rfl positive
      · exact ⟨(front, back), ih.mpr ⟨rfl, by rw [byteLength_cons]; omega⟩, rfl⟩

/-- A text can be cut exactly where one of its letters begins, or at its end. -/
theorem isSome_cut?_iff {offset : Nat} {text : String} :
    (cut? offset text.toList).isSome ↔ (⟨offset⟩ : String.Pos.Raw).IsValid text := by
  -- Positions in a text are told apart by the bytes before them, as cuts are.
  rw [String.Pos.Raw.isValid_iff_exists_append, Option.isSome_iff_exists]
  constructor
  · rintro ⟨⟨front, back⟩, found⟩
    obtain ⟨split, length⟩ := cut?_eq_some_iff.mp found
    refine ⟨String.ofList front, String.ofList back, ?_, String.Pos.Raw.ext ?_⟩
    · rw [← String.ofList_append, ← split, String.ofList_toList]
    · rw [String.byteIdx_rawEndPos, utf8ByteSize_ofList, length]
  · rintro ⟨front, back, rfl, at_end⟩
    refine ⟨(front.toList, back.toList), cut?_eq_some_iff.mpr ⟨String.toList_append, ?_⟩⟩
    have length := congrArg String.Pos.Raw.byteIdx at_end
    rw [String.byteIdx_rawEndPos, ← String.ofList_toList (s := front),
      utf8ByteSize_ofList] at length
    exact length.symm

/-- Letters are cut behind the first part of them. -/
theorem cut?_byteLength (front back : List Char) :
    cut? (byteLength front) (front ++ back) = some (front, back) :=
  cut?_eq_some_iff.mpr ⟨rfl, rfl⟩

/-- Behind a cut are no more letters than before it. -/
theorem length_le_of_cut? {offset : Nat} {letters front back : List Char}
    (cut : cut? offset letters = some (front, back)) : back.length ≤ letters.length := by
  obtain ⟨rfl, -⟩ := cut?_eq_some_iff.mp cut
  rw [List.length_append]
  omega

/-- Behind a cut at a later offset are fewer letters. -/
theorem length_lt_of_cut? {offset : Nat} {letters front back : List Char} (later : offset ≠ 0)
    (cut : cut? offset letters = some (front, back)) : back.length < letters.length := by
  -- The first part has bytes, so it has letters.
  obtain ⟨rfl, rfl⟩ := cut?_eq_some_iff.mp cut
  have taken : front ≠ [] := fun none => later (by rw [none, byteLength_nil])
  have := List.length_pos_iff.mpr taken
  rw [List.length_append]
  omega

/-- The first letter that ends a run stands behind the bytes of the run. -/
theorem offset?_run {test : Char → Bool} {run rest : List Char} {letter : Char}
    (inside : ∀ letter ∈ run, test letter = false) (outside : test letter = true) :
    offset? test (run ++ letter :: rest) = some (byteLength run) := by
  -- The induction is on the run, whose letters are passed over one by one.
  induction run with
  | nil => rw [List.nil_append, offset?, if_pos outside, byteLength_nil]
  | cons first run ih =>
    obtain ⟨failing, others⟩ := List.forall_mem_cons.mp inside
    rw [List.cons_append, offset?, if_neg (by simp [failing]), ih others, byteLength_cons,
      Option.map_some]

/-- Where no letter passes, there is no offset of one. -/
theorem offset?_eq_none {test : Char → Bool} {letters : List Char}
    (inside : ∀ letter ∈ letters, test letter = false) : offset? test letters = none := by
  -- The induction is on the letters, none of which passes.
  induction letters with
  | nil => rfl
  | cons first rest ih =>
    obtain ⟨failing, others⟩ := List.forall_mem_cons.mp inside
    rw [offset?, if_neg (by simp [failing]), ih others, Option.map_none]

/-- A run ends where the rest does not go on with it, or where the letters end. -/
theorem runEnd_eq {test : Char → Bool} {run rest : List Char}
    (inside : ∀ letter ∈ run, test letter = true)
    (outside : ∀ letter ∈ rest.head?, test letter = false) :
    (offset? (fun letter => !test letter) (run ++ rest)).getD (byteLength (run ++ rest)) =
      byteLength run := by
  -- The end of a run is the first letter that fails its test, or the end of all letters.
  have failing : ∀ letter ∈ run, (!test letter) = false :=
    fun letter mem => by simp [inside letter mem]
  cases rest with
  | nil => rw [List.append_nil, offset?_eq_none failing, Option.getD_none]
  | cons letter rest =>
    rw [offset?_run failing (by simp [outside letter rfl]), Option.getD_some]

end Bytes

section Turns

/-- What one turn of the scan comes to. -/
inductive Turn where
  | key (key : ChildKey) (rest : List Char)
  /-- Something else than a key stands here. -/
  | refused
  /-- A cut would have gone through a letter. -/
  | severed

/-- The byte offset at which the leading run of name letters ends. -/
def nameEnd (letters : List Char) : Nat :=
  (offset? (fun letter => !isNameLetter letter) letters).getD (byteLength letters)

/-- A member's name: the letters between the dot and the end of the run. -/
def turnMember (letters : List Char) : Turn :=
  match cut? 1 letters with
  | none => .severed
  | some (_, body) =>
    if nameEnd body = 0 then .refused
    else match cut? (nameEnd body) body with
      | none => .severed
      | some (name, rest) => .key (.member (String.ofList name)) rest

/-- A position: the letters between the bracket and the first closing one. -/
def turnPosition (letters : List Char) : Turn :=
  match offset? (· == ']') letters with
  | none => .refused
  | some close =>
    match cut? close letters with
    | none => .severed
    | some (opened, closed) =>
      match cut? 1 opened, cut? 1 closed with
      | some (_, inside), some (_, rest) =>
        match position? inside with
        | none => .refused
        | some index => .key (.position index) rest
      | _, _ => .severed

/-- One turn of the scan. -/
def turn (letters : List Char) : Turn :=
  match letters with
  | '.' :: _ => turnMember letters
  | '[' :: _ => turnPosition letters
  | _ => .refused

/-- A member takes its dot off the letters. -/
theorem turnMember_shorter {letters rest : List Char} {key : ChildKey}
    (turned : turnMember letters = .key key rest) : rest.length < letters.length := by
  -- The dot is cut off, and the letters after the name are no more than those after the dot.
  unfold turnMember at turned
  split at turned
  · cases turned
  · next _ body dotted =>
    split at turned
    · cases turned
    · split at turned
      · cases turned
      · next _ name behind cutName =>
        cases turned
        exact lt_of_le_of_lt (length_le_of_cut? cutName) (length_lt_of_cut? Nat.one_ne_zero dotted)

/-- A position takes its closing bracket off the letters. -/
theorem turnPosition_shorter {letters rest : List Char} {key : ChildKey}
    (turned : turnPosition letters = .key key rest) : rest.length < letters.length := by
  -- The closing bracket is cut off, and before it was cut nothing had been added.
  unfold turnPosition at turned
  split at turned
  · cases turned
  · split at turned
    · cases turned
    · next _ opened closed cutClose =>
      split at turned
      · next _ inside _ behind _ cutClosing =>
        split at turned
        · cases turned
        · cases turned
          exact lt_of_lt_of_le (length_lt_of_cut? Nat.one_ne_zero cutClosing)
            (length_le_of_cut? cutClose)
      · cases turned

/-- A turn leaves fewer letters than it found. -/
theorem turn_shorter {letters rest : List Char} {key : ChildKey}
    (turned : turn letters = .key key rest) : rest.length < letters.length := by
  -- Only a dot and a bracket begin a key.
  unfold turn at turned
  split at turned
  · exact turnMember_shorter turned
  · exact turnPosition_shorter turned
  · cases turned

/-- Scans a walk; nothing at all if a cut would go through a letter. -/
def scan (letters : List Char) : Option (Option (List ChildKey)) :=
  if letters.isEmpty then some (some [])
  else match _turned : turn letters with
    | .severed => none
    | .refused => some none
    | .key key rest => (scan rest).map fun keys => keys.map (key :: ·)
termination_by letters.length
decreasing_by exact turn_shorter _turned

/-- Scans a path: the root's name is cut off first. -/
def scanPath (text : String) : Option (Option Path) :=
  match cut? (nameEnd text.toList) text.toList with
  | none => none
  | some (root, walk) =>
    if root.isEmpty then some none
    else (scan walk).map fun keys => keys.map (Path.mk (String.ofList root))

end Turns

section Agreement

/-- A name of a longest run ends where its bytes do. -/
theorem nameEnd_run {name rest : List Char} (letters : ∀ letter ∈ name, isNameLetter letter = true)
    (longest : EndsName rest) : nameEnd (name ++ rest) = byteLength name :=
  runEnd_eq letters longest

/-- The letters of a run before a mark are not the mark. -/
theorem beq_eq_false_of_not_mem {mark : Char} {run : List Char} (absent : mark ∉ run) :
    ∀ letter ∈ run, (letter == mark) = false :=
  fun letter mem => by simpa using forall_ne_of_not_mem absent letter mem

/-- The dot of a member is one byte long. -/
theorem cut?_dot (rest : List Char) : cut? 1 ('.' :: rest) = some (['.'], rest) :=
  cut?_byteLength ['.'] rest

/-- A dot without a name behind it is refused. -/
theorem turn_unnamed {rest : List Char} (ends : EndsName rest) :
    turn ('.' :: rest) = .refused := by
  -- The run of name letters ends before it has begun.
  have atOnce : nameEnd rest = 0 := @nameEnd_run [] rest (List.forall_mem_nil _) ends
  rw [turn, turnMember, cut?_dot]
  simp only [atOnce, if_true]

/-- A dot and a name are a member. -/
theorem turn_member {name rest : List Char} (named : IsName name) (longest : EndsName rest) :
    turn ('.' :: (name ++ rest)) = .key (.member (String.ofList name)) rest := by
  -- Both cuts fall behind whole letters: the dot, and the name.
  have nonempty : byteLength name ≠ 0 := mt byteLength_eq_zero_iff.mp named.1
  rw [turn, turnMember, cut?_dot]
  simp only [nameEnd_run named.2 longest, if_neg nonempty, cut?_byteLength]

/-- A bracket that stays open is refused. -/
theorem turn_unclosed {rest : List Char} (absent : ']' ∉ rest) :
    turn ('[' :: rest) = .refused := by
  -- The search for a closing bracket goes through all letters and finds none.
  have nowhere : offset? (· == ']') ('[' :: rest) = none :=
    offset?_eq_none (List.forall_mem_cons.mpr ⟨by decide, beq_eq_false_of_not_mem absent⟩)
  rw [turn, turnPosition, nowhere]

/-- Brackets around a number are a position, and around anything else they are refused. -/
theorem turn_position {inside : List Char} (absent : ']' ∉ inside) (rest : List Char) :
    turn ('[' :: (inside ++ ']' :: rest)) =
      ((position? inside).map fun index => .key (.position index) rest).getD .refused := by
  -- The search ends at the first closing bracket, which stands behind everything inside.
  have before : ∀ letter ∈ '[' :: inside, (letter == ']') = false :=
    List.forall_mem_cons.mpr ⟨by decide, beq_eq_false_of_not_mem absent⟩
  have close : offset? (· == ']') ('[' :: (inside ++ ']' :: rest)) =
      some (byteLength ('[' :: inside)) := offset?_run before (beq_self_eq_true ']')
  -- All three cuts fall behind whole letters.
  have opened := cut?_byteLength ('[' :: inside) (']' :: rest)
  have bracket : cut? 1 ('[' :: inside) = some (['['], inside) := cut?_byteLength ['['] inside
  have closing : cut? 1 (']' :: rest) = some ([']'], rest) := cut?_byteLength [']'] rest
  rw [List.cons_append] at opened
  rw [turn, turnPosition, close]
  simp only [opened, bracket, closing]
  cases position? inside <;> rfl

/-- Any other letter is refused. -/
theorem turn_other {letter : Char} (noDot : letter ≠ '.') (noBracket : letter ≠ '[')
    (rest : List Char) : turn (letter :: rest) = .refused := by
  -- The two letters that begin a key are told apart by the pattern.
  unfold turn
  split
  · next same => exact absurd (List.cons.inj same).1 noDot
  · next same => exact absurd (List.cons.inj same).1 noBracket
  · rfl

/-- A turn that is refused ends the scan. -/
theorem scan_of_refused {letter : Char} {rest : List Char}
    (refused : turn (letter :: rest) = .refused) : scan (letter :: rest) = some none := by
  -- The scan takes the turn that is known, so the other cases contradict it.
  rw [scan, if_neg (by simp)]
  split
  · next severed => rw [refused] at severed; cases severed
  · rfl
  · next key behind found => rw [refused] at found; cases found

/-- After a key the scan goes on with the rest. -/
theorem scan_of_key {letter : Char} {letters rest : List Char} {key : ChildKey}
    (turned : turn (letter :: letters) = .key key rest) :
    scan (letter :: letters) = (scan rest).map fun keys => keys.map (key :: ·) := by
  -- The scan takes the turn that is known, so the other cases contradict it.
  rw [scan, if_neg (by simp)]
  split
  · next severed => rw [turned] at severed; cases severed
  · next refused => rw [turned] at refused; cases refused
  · next found =>
    rw [turned] at found
    cases found
    rfl

/-- The scan of a walk cuts no letter apart and finds the keys that are read. -/
theorem scan_eq (letters : List Char) : scan letters = some (keys? letters) := by
  -- Each case of reading a walk is one turn of the scan.
  induction letters using reading_induct with
  | nil => rw [scan, keys?_nil, List.isEmpty_nil, if_pos rfl]
  | unnamed rest ends => rw [scan_of_refused (turn_unnamed ends), keys?_unnamed ends]
  | member name rest named longest ih =>
    rw [scan_of_key (turn_member named longest), keys?_member named longest, ih, Option.map_some]
  | unclosed rest absent => rw [scan_of_refused (turn_unclosed absent), keys?_unclosed absent]
  | position inside rest absent ih =>
    rw [keys?_position absent]
    have turned := turn_position absent rest
    cases bracketed : position? inside with
    -- A bracket around anything else than a position ends both.
    | none =>
      rw [bracketed] at turned
      rw [scan_of_refused turned, Option.bind_none]
    | some index =>
      rw [bracketed] at turned
      rw [scan_of_key turned, ih, Option.bind_some, Option.map_some]
  | other letter rest noDot noBracket =>
    rw [scan_of_refused (turn_other noDot noBracket rest), keys?_other noDot noBracket]

/-- The scan of a path cuts no letter apart and finds the path that is read. -/
theorem scanPath_eq (text : String) : scanPath text = some (parse? text) := by
  -- The root is the leading run of name letters, and it is cut off behind its last byte.
  have split : text.toList.takeWhile isNameLetter ++ afterName text.toList = text.toList :=
    List.takeWhile_append_dropWhile
  have inside : ∀ letter ∈ text.toList.takeWhile isNameLetter, isNameLetter letter = true :=
    fun _ => List.mem_takeWhile_imp
  have ends := nameEnd_run inside (head?_dropWhile text.toList)
  have cut := cut?_byteLength (text.toList.takeWhile isNameLetter) (afterName text.toList)
  rw [← afterName, split] at ends
  rw [split] at cut
  rw [scanPath, parse?, ends, cut]
  simp only [scan_eq]
  split
  · rfl
  · cases keys? (afterName text.toList) <;> rfl

end Agreement

end Inspection.Path
