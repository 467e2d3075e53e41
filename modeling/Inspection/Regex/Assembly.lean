import Inspection.Regex.Program
import Inspection.Text.Utf8

/-! Programs are put together so that neighbours that can be one piece become one piece. -/

namespace Inspection.Regex

namespace Program

mutual

/-- Whether two programs are written alike. -/
def isSame : Program → Program → Bool
  | empty, empty => true
  | text letters, text others => letters == others
  | set letters bytewise, set others otherwise => letters == others && bytewise == otherwise
  | look condition, look other => condition == other
  | repetition body least most greedy, repetition other least' most' greedy' =>
    least == least' && most == most' && greedy == greedy' && body.isSame other
  | capture number body, capture number' other => number == number' && body.isSame other
  | sequence parts, sequence others => areSame parts others
  | choice branches, choice others => areSame branches others
  | _, _ => false

/-- Whether two lists of programs are written alike. -/
def areSame : List Program → List Program → Bool
  | [], [] => true
  | part :: rest, other :: others => part.isSame other && areSame rest others
  | _, _ => false

end

mutual

/-- Whether the program can match nothing but the empty text. -/
def isAlwaysEmpty : Program → Bool
  | empty | look _ => true
  | text _ | set .. => false
  | repetition body _ most _ => most.isSome && body.isAlwaysEmpty
  | capture _ body => body.isAlwaysEmpty
  | sequence parts => areAlwaysEmpty parts
  | choice branches => areAlwaysEmpty branches

/-- Whether all programs of a list can match nothing but the empty text. -/
def areAlwaysEmpty : List Program → Bool
  | [] => true
  | part :: rest => part.isAlwaysEmpty && areAlwaysEmpty rest

end

/-- The program that matches nothing, not even the empty text. -/
def never : Program := .set .empty true

/-- Matches one of the characters of a set; a single character is a text. -/
def oneOf (letters : Text.CharSet) (bytewise : Bool) : Program :=
  let letters := letters.withoutSurrogates
  match letters.ranges with
  | [] => never
  | [(first, last)] => if first = last then .text [Char.ofNat first] else .set letters bytewise
  | _ => .set letters bytewise

/-- Matches a program again and again; one that is always empty need not match twice. -/
def repeated (body : Program) (least : Nat) (most : Option Nat) (greedy : Bool) : Program :=
  let (least, most) :=
    if body.isAlwaysEmpty then (min least 1, some (min (most.getD 1) 1)) else (least, most)
  match least, most with
  | 0, some 0 => empty
  | 1, some 1 => body
  | least, most => .repetition body least most greedy

/-- The parts of a program that matches them one after the other. -/
def parts : Program → List Program
  | empty => []
  | sequence parts => parts
  | program => [program]

/-- Joins the texts that stand next to each other. -/
def joinTexts : List Program → List Program
  | [] => []
  | text letters :: rest =>
    match joinTexts rest with
    | text others :: rest => text (letters ++ others) :: rest
    | rest => text letters :: rest
  | part :: rest => part :: joinTexts rest

/-- Matches programs one after the other. -/
def inSequence (programs : List Program) : Program :=
  match joinTexts (programs.flatMap parts) with
  | [] => empty
  | [part] => part
  | parts => .sequence parts

/-- The branches of a program that matches any of them. -/
def branches : Program → List Program
  | choice branches => branches
  | program => [program]

/-- The character that a program stands for, if it is a text of one character. -/
def letter? : Program → Option Char
  | text [letter] => some letter
  | _ => none

/-- The set whose members a program stands for. -/
def letters? : Program → Option Text.CharSet
  | set letters _ => some letters
  | _ => none

/-- Matches any of some programs that have no common beginning. -/
def anyOfUnlike (programs : List Program) : Program :=
  match programs.flatMap branches with
  | [] => never
  | [branch] => branch
  | branches =>
    match branches.mapM letter?, branches.mapM letters? with
    | some letters, _ => oneOf (.ofChars letters) false
    | none, some sets => oneOf (.ofRanges (sets.flatMap (·.ranges))) false
    | none, none => .choice branches

/-- The parts of a program of two parts or more. -/
def sequenceParts? : Program → Option (List Program)
  | sequence parts => some parts
  | _ => none

/-- How many programs two lists have in common at the start. -/
def commonLength : List Program → List Program → Nat
  | part :: rest, other :: others => if part.isSame other then commonLength rest others + 1 else 0
  | _, _ => 0

/--
Matches any of some programs.

Where all of them are sequences, the parts that they begin with in common are matched once. What
is left of them has no common beginning any more.
-/
def anyOf (programs : List Program) : Program :=
  match anyOfUnlike programs with
  | choice branches =>
    match branches.mapM sequenceParts? with
    | some (first :: others) =>
      let common := others.foldl (fun common parts => min common (commonLength first parts))
        first.length
      if common = 0 then .choice branches
      else
        let rests := (first :: others).map fun parts => inSequence (parts.drop common)
        inSequence (first.take common ++ [anyOfUnlike rests])
    | _ => .choice branches
  | program => program

end Program

end Inspection.Regex
