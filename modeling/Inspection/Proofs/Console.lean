import Inspection.Console
import Inspection.Proofs.Text

/-! A command line is read word by word, so only a name without blanks can be deleted. -/

namespace Inspection

namespace Text

variable {run letters before after : List Char}

/-- Whether all letters of a run can be seen is decided letter by letter. -/
theorem visible_of_all (all : (run.all fun letter => !isBlank letter) = true) :
    ∀ letter ∈ run, isBlank letter = false := by
  simpa using all

/-- Letters that can all be seen are added to the word that is being read. -/
theorem wordsFrom_visible (visible : ∀ letter ∈ run, isBlank letter = false)
    (unfinished rest : List Char) :
    wordsFrom unfinished (run ++ rest) = wordsFrom (run.reverse ++ unfinished) rest := by
  -- Each letter is put in front of the reversed word.
  induction run generalizing unfinished with
  | nil => rfl
  | cons letter run ih =>
    obtain ⟨first, later⟩ := List.forall_mem_cons.mp visible
    simp only [List.cons_append, wordsFrom, first, Bool.false_eq_true, if_false, ih later,
      List.reverse_cons, List.append_assoc, List.nil_append]

/-- A word ends at the first blank behind it. -/
theorem words_append_blank (nonempty : run ≠ []) (visible : ∀ letter ∈ run, isBlank letter = false)
    {blank : Char} (isBlank : isBlank blank = true) (rest : List Char) :
    words (run ++ blank :: rest) = run :: words rest := by
  -- The letters are gathered into one word, which the blank puts out.
  rw [words, wordsFrom_visible visible]
  simp [wordsFrom, isBlank, nonempty, words]

/-- Letters that can all be seen are one word. -/
theorem words_of_visible (nonempty : run ≠ [])
    (visible : ∀ letter ∈ run, isBlank letter = false) : words run = [run] := by
  -- The letters are gathered into one word, which the end puts out.
  have read := wordsFrom_visible visible [] []
  rw [List.append_nil] at read
  rw [words, read]
  simp [wordsFrom, nonempty]

/-- Blanks at the front add no word. -/
theorem words_blanks_append (blank : IsBlankRun before) (letters : List Char) :
    words (before ++ letters) = words letters := by
  -- Before a word has begun a blank is passed over.
  induction before with
  | nil => rfl
  | cons letter rest ih =>
    obtain ⟨first, later⟩ := List.forall_mem_cons.mp blank
    have passed := ih later
    simp only [words] at passed ⊢
    simpa [wordsFrom, first] using passed

/-- Blanks end the word that is being read and begin no other. -/
theorem wordsFrom_blanks (blank : IsBlankRun after) (unfinished : List Char) :
    wordsFrom unfinished after = wordsFrom unfinished [] := by
  -- The first blank puts out the word, and then there is none to put out.
  cases after with
  | nil => rfl
  | cons letter rest =>
    obtain ⟨first, later⟩ := List.forall_mem_cons.mp blank
    have none := words_blanks_append later []
    simp only [words, List.append_nil] at none
    simp [wordsFrom, first, none]

/-- Blanks at the end add no word. -/
theorem wordsFrom_append_blanks (blank : IsBlankRun after) (unfinished letters : List Char) :
    wordsFrom unfinished (letters ++ after) = wordsFrom unfinished letters := by
  -- The induction is on the letters before the blanks.
  induction letters generalizing unfinished with
  | nil => exact wordsFrom_blanks blank unfinished
  | cons letter rest ih => simp only [List.cons_append, wordsFrom, ih]

/-- Trimming takes away no word. -/
theorem words_trimList (letters : List Char) : words (trimList letters) = words letters := by
  -- The blanks that were cut are put back on, first in front and then at the end.
  obtain ⟨before, after, blankBefore, blankAfter, same⟩ := exists_blanks_around letters
  calc words (trimList letters)
      = words (before ++ trimList letters) := (words_blanks_append blankBefore _).symm
    _ = words (before ++ trimList letters ++ after) :=
      (wordsFrom_append_blanks blankAfter [] _).symm
    _ = words letters := congrArg words same.symm

/-- The words hold the letters that can be seen, in their order. -/
theorem flatten_wordsFrom (unfinished letters : List Char) :
    (wordsFrom unfinished letters).flatten =
      unfinished.reverse ++ letters.filter fun letter => !isBlank letter := by
  -- A letter is passed over or added to the word that is being read.
  induction letters generalizing unfinished with
  | nil => cases unfinished <;> simp [wordsFrom]
  | cons letter rest ih =>
    cases blank : isBlank letter with
    | true => cases unfinished <;> simp [wordsFrom, blank, ih]
    | false => simp [wordsFrom, blank, ih]

/-- Letters are their own only word exactly if there are some and all of them can be seen. -/
theorem words_eq_self_iff : words letters = [letters] ↔
    letters ≠ [] ∧ ∀ letter ∈ letters, isBlank letter = false := by
  constructor
  · intro alone
    refine ⟨?_, fun letter member => ?_⟩
    · -- No letters have no words.
      rintro rfl
      cases alone
    · -- The only word holds the letters that can be seen, and it holds all of them.
      have seen := flatten_wordsFrom [] letters
      rw [← words, alone, List.flatten_singleton, List.reverse_nil, List.nil_append] at seen
      have visible := List.filter_eq_self.mp seen.symm letter member
      rwa [Bool.not_eq_true'] at visible
  · exact fun ⟨nonempty, visible⟩ => words_of_visible nonempty visible

/-- A letter that can be seen stays in front when blanks are cut at the ends. -/
theorem trimList_cons_of_visible {letter : Char} (visible : isBlank letter = false)
    (rest : List Char) : trimList (letter :: rest) = letter :: trimEndList isBlank rest := by
  -- The cut in front stops at the letter, and the cut at the end does not go past it.
  have kept : (letter :: rest).dropWhile isBlank = letter :: rest :=
    List.dropWhile_cons_of_neg (by rw [visible]; exact Bool.false_ne_true)
  rw [trimList, kept, trimEndList, List.reverse_cons, List.dropWhile_append]
  cases tail : rest.reverse.dropWhile isBlank <;> simp [trimEndList, tail, visible]

end Text

namespace Console

/-- A line means what it means without blanks at its ends. -/
theorem parse_trim (line : String) : parse (Text.trim line) = parse line := by
  -- A line is trimmed before it is read, and trimming twice cuts no more.
  have same : content (Text.trim line) = content line := by
    rw [content, content, Text.trim, String.toList_ofList,
      Text.trimList_of_isTrimmed (Text.isTrimmed_trimList line.toList)]
  simp only [parse, same]

/-- The content of a marked line is what stands behind the mark. -/
theorem content_of_marked {line : String} {letter : Char} {rest : List Char}
    (marked : line.toList = mark :: letter :: rest) (visible : Text.isBlank letter = false)
    (other : letter ≠ mark) : content line = Text.trimList (letter :: rest) := by
  -- Both the mark and the letter behind it can be seen, so neither is cut.
  have cut : Text.trimList line.toList = mark :: Text.trimList (letter :: rest) := by
    rw [marked, Text.trimList_cons_of_visible (by decide), Text.trimList, List.dropWhile_cons_of_neg
      (by rw [visible]; exact Bool.false_ne_true)]
  -- Only the one mark is taken off, since another letter follows it.
  have unmarked : (mark :: Text.trimList (letter :: rest)).dropWhile (· == mark) =
      Text.trimList (letter :: rest) := by
    rw [List.dropWhile_cons_of_pos (by simp), Text.trimList_cons_of_visible visible,
      List.dropWhile_cons_of_neg (by simpa using other)]
  rw [content, cut, unmarked, Text.trimList_of_isTrimmed (Text.isTrimmed_trimList _)]

/-- The line that asks for the formatter of a name to be deleted. -/
def deletion (name : String) : String := "`formatter delete " ++ name

/-- The letters of the line that asks for a deletion. -/
theorem toList_deletion (name : String) : (deletion name).toList =
    mark :: ("formatter".toList ++ ' ' :: ("delete".toList ++ ' ' :: name.toList)) := by
  -- The two words of the command are told apart from the blanks around them.
  have spelled : "`formatter delete ".toList =
      mark :: ("formatter".toList ++ ' ' :: ("delete".toList ++ [' '])) := by decide
  have joined : (deletion name).toList = "`formatter delete ".toList ++ name.toList :=
    String.toList_append
  rw [joined, spelled]
  simp only [List.cons_append, List.append_assoc, List.nil_append]

/-- The words of the line that asks for a deletion are the command and the words of the name. -/
theorem words_deletion (name : String) : Text.words (content (deletion name)) =
    "formatter".toList :: "delete".toList :: Text.words name.toList := by
  -- Behind the mark stand the two words of the command, each with a blank behind it.
  have spelled : "formatter".toList = 'f' :: "ormatter".toList := by decide
  have marked := toList_deletion name
  rw [spelled, List.cons_append] at marked
  rw [content_of_marked marked (by decide) (by decide), Text.words_trimList, ← List.cons_append,
    ← spelled, Text.words_append_blank (by decide) (Text.visible_of_all rfl) (by decide),
    Text.words_append_blank (by decide) (Text.visible_of_all rfl) (by decide)]

/-- A deletion is asked for by a single word; none is too few and two are a command unknown. -/
theorem parse_deletion (name : String) : parse (deletion name) =
    match Text.words name.toList with
    | [] => .error .nothingToDelete
    | [word] => .ok (.delete (String.ofList word))
    | _ :: _ :: _ => .error (.unknown (String.ofList (content (deletion name)))) := by
  -- The words of the name are all that the command does not give.
  simp only [parse, words_deletion]
  rcases Text.words name.toList with _ | ⟨word, _ | ⟨other, rest⟩⟩ <;> rfl

/-- The deletion of a name is asked for exactly if the name has letters and all can be seen. -/
theorem parse_deletion_eq_iff {name : String} : parse (deletion name) = .ok (.delete name) ↔
    name.toList ≠ [] ∧ ∀ letter ∈ name.toList, Text.isBlank letter = false := by
  -- The name that is asked for is the single word, which has to be all of the name.
  rw [← Text.words_eq_self_iff, parse_deletion]
  rcases words : Text.words name.toList with _ | ⟨word, _ | ⟨other, rest⟩⟩
  · simp
  · simp [← String.toList_inj]
  · simp

end Console

end Inspection
