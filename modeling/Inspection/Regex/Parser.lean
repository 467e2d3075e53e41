import Inspection.Regex.Bracket

/-! An expression is read group by group; groups end the scope of the flags set inside them. -/

namespace Inspection.Regex

/-- Skips blanks of any kind. -/
def skipBlanks (letters : List Char) : List Char := letters.dropWhile Text.isBlank

/-- Collects decimal digits, skipping what is ignored between them. -/
def decimalDigits (verbose : Bool) (fuel : Nat) (digits letters : List Char) :
    List Char × List Char :=
  match fuel, letters with
  | 0, _ | _, [] => (digits.reverse, letters)
  | fuel + 1, letter :: _ =>
    if letter.isDigit then decimalDigits verbose fuel (letter :: digits) (advance verbose letters)
    else (digits.reverse, letters)

/-- A count of a repetition: missing, too large, or a number. -/
inductive Count where
  | missing
  | tooLarge
  | number (value : Nat)

/-- Reads a count with blanks around it. -/
def count (verbose : Bool) (letters : List Char) : Count × List Char :=
  let letters := skipBlanks letters
  let (digits, rest) := decimalDigits verbose letters.length [] letters
  let rest := skipBlanks rest
  if digits.isEmpty then (.missing, rest)
  else
    let value := digits.foldl (fun value digit => value * 10 + (digit.toNat - '0'.toNat)) 0
    if value < 0x100000000 then (.number value, rest) else (.tooLarge, rest)

/-- Reads the counts of a repetition between braces. -/
def counts (verbose : Bool) (letters : List Char) : Option (Nat × Option Nat × List Char) :=
  let first := count verbose (advance verbose letters)
  match first with
  | (.number least, '\x7d' :: _) => some (least, some least, first.2)
  | (.number least, ',' :: _) =>
    match advance verbose first.2 with
    | '\x7d' :: rest => some (least, none, '\x7d' :: rest)
    | rest =>
      match count verbose rest with
      | (.number most, '\x7d' :: after) =>
        if least ≤ most then some (least, some most, '\x7d' :: after) else none
      | _ => none
  | _ => none

/-- Reads the mark of a lazy repetition, if there is one. -/
def lazyMark : List Char → Bool × List Char
  | '?' :: rest => (true, rest)
  | rest => (false, rest)

/-- The expression that a repetition sign applies to: the latest part, unless it sets flags. -/
def repeatable? : List Expression → Option (Expression × List Expression)
  | [] | .empty :: _ | .flags _ :: _ => none
  | part :: parts => some (part, parts)

/-- Whether a character may stand in the name of a group. -/
def isGroupLetter (letter : Char) (isFirst : Bool) : Bool :=
  letter == '_'
    || (if isFirst then Text.isAlphabetic letter
      else Text.isAlphanumeric letter || letter == '.' || letter == '[' || letter == ']')

/-- Whether a text is a name for a group. -/
def isGroupName : List Char → Bool
  | [] => false
  | first :: others => isGroupLetter first true && others.all (isGroupLetter · false)

/-- The flag letters read so far, in order, each with whether it is switched on. -/
structure FlagsSoFar where
  on : Bool
  /-- A minus sign has just been read. -/
  dangling : Bool
  seen : List Char
  changes : FlagChanges

/-- Applies one flag letter. -/
def applyFlag (changes : FlagChanges) (letter : Char) (on : Bool) : Option FlagChanges :=
  match letter with
  | 'i' => some { changes with caseInsensitive := some on }
  | 'm' => some { changes with multiLine := some on }
  | 's' => some { changes with dotAll := some on }
  | 'U' => some { changes with swapGreed := some on }
  | 'u' => some { changes with unicode := some on }
  | 'R' => some { changes with crlf := some on }
  | 'x' => some { changes with ignoreBlanks := some on }
  | _ => none

/-- Reads flag letters up to a colon or a closing parenthesis; none may be repeated. -/
def flagLetters (soFar : FlagsSoFar) : List Char → Option (FlagsSoFar × Char × List Char)
  | [] => none
  | letter :: rest =>
    if letter = ':' ∨ letter = ')' then
      if soFar.dangling then none else some (soFar, letter, rest)
    else if letter ∈ soFar.seen then none
    else if letter = '-' then flagLetters ⟨false, true, letter :: soFar.seen, soFar.changes⟩ rest
    else do
      let changes ← applyFlag soFar.changes letter soFar.on
      flagLetters ⟨soFar.on, false, letter :: soFar.seen, changes⟩ rest

/-- What an opening parenthesis begins. -/
inductive Opening where
  | plainGroup (changes : FlagChanges)
  /-- A group that captures what it matches, under a name if it has one. -/
  | captureGroup (name : Option String)
  | flags (changes : FlagChanges)

/-- Reads what follows an opening parenthesis; looking around is not supported. -/
def opening (verbose : Bool) (letters : List Char) : Option (Opening × List Char) :=
  let named (rest : List Char) := do
    let (name, rest) ← cutAt? ['>'] rest
    if isGroupName name then some (Opening.captureGroup (some (String.ofList name)), rest) else none
  match skipIgnored verbose false letters with
  | '?' :: '=' :: _ | '?' :: '!' :: _ | '?' :: '<' :: '=' :: _ | '?' :: '<' :: '!' :: _ => none
  | '?' :: 'P' :: '<' :: rest => named rest
  | '?' :: '<' :: rest => named rest
  | '?' :: rest => do
    let (soFar, final, rest) ← flagLetters ⟨true, false, [], .none⟩ rest
    if final = ':' then some (.plainGroup soFar.changes, rest)
    else if soFar.seen.isEmpty then none
    else some (.flags soFar.changes, rest)
  | rest => some (.captureGroup none, rest)

/-- The groups that capture, in the part of a pattern read so far. -/
structure Captures where
  count : Nat
  names : List String

/-- No group at all. -/
def Captures.none : Captures := ⟨0, []⟩

/-- One more group that captures; its name must be new. -/
def Captures.add? (captures : Captures) (name : Option String) : Option Captures :=
  match name with
  | .none => some { captures with count := captures.count + 1 }
  | some name =>
    if captures.names.contains name then .none
    else some ⟨captures.count + 1, name :: captures.names⟩

/-- The parts of a sequence, newest first, as one expression. -/
def sequence : List Expression → Expression
  | [] => .empty
  | [part] => part
  | parts => .concatenation parts.reverse

/-- The branches of a choice, newest first, as one expression. -/
def choice : List Expression → Expression
  | [branch] => branch
  | branches => .alternation branches.reverse

/-- What reading a body has gathered: its parts and the groups of the whole pattern. -/
structure BodySoFar where
  verbose : Bool
  captures : Captures
  branches : List Expression
  parts : List Expression

/-- The finished body. -/
def BodySoFar.finish (soFar : BodySoFar) : Expression :=
  choice (sequence soFar.parts :: soFar.branches)

/-- A body with one more part. -/
def BodySoFar.push (soFar : BodySoFar) (part : Expression) : BodySoFar :=
  { soFar with parts := part :: soFar.parts }

/-- A body whose latest part is repeated. -/
def BodySoFar.repeat? (soFar : BodySoFar) (least : Nat) (most : Option Nat) (lazy : Bool) :
    Option BodySoFar := do
  let (part, parts) ← repeatable? soFar.parts
  return { soFar with parts := .repetition part least most lazy :: parts }

/-- Reads a body up to its closing parenthesis or the end; the fuel is at least the length. -/
def body (fuel : Nat) (soFar : BodySoFar) (letters : List Char) :
    Option (Expression × Captures × List Char) :=
  match fuel with
  | 0 => none
  | fuel + 1 =>
    let letters := skipIgnored soFar.verbose false letters
    let repeated (least : Nat) (most : Option Nat) (letters : List Char) := do
      let (lazy, rest) := lazyMark letters
      body fuel (← soFar.repeat? least most lazy) rest
    let group (changes : FlagChanges) (capture : Option Nat) (captures : Captures)
        (letters : List Char) := do
      let verbose := changes.ignoreBlanks.getD soFar.verbose
      match ← body fuel ⟨verbose, captures, [], []⟩ letters with
      | (inner, captures, ')' :: rest) =>
        body fuel { soFar.push (.group changes capture inner) with captures } rest
      | _ => none
    match letters with
    | [] => some (soFar.finish, soFar.captures, [])
    | ')' :: _ => some (soFar.finish, soFar.captures, letters)
    | '|' :: rest =>
      body fuel { soFar with branches := sequence soFar.parts :: soFar.branches, parts := [] } rest
    | '(' :: rest => do
      match ← opening soFar.verbose rest with
      | (.flags changes, rest) =>
        let verbose := changes.ignoreBlanks.getD soFar.verbose
        body fuel { soFar.push (.flags changes) with verbose } rest
      | (.plainGroup changes, rest) => group changes none soFar.captures rest
      | (.captureGroup name, rest) =>
        let captures ← soFar.captures.add? name
        group .none (some captures.count) captures rest
    | '[' :: _ => do
      let (part, rest) ← bracket soFar.verbose letters
      body fuel (soFar.push part) rest
    | '?' :: rest => repeated 0 (some 1) rest
    | '*' :: rest => repeated 0 none rest
    | '+' :: rest => repeated 1 none rest
    | '\x7b' :: _ => do
      let (least, most, rest) ← counts soFar.verbose letters
      repeated least most (advance soFar.verbose rest)
    | '\\' :: rest => do
      let (part, rest) ← escape soFar.verbose rest
      body fuel (soFar.push part) rest
    | '.' :: rest => body fuel (soFar.push .dot) rest
    | '^' :: rest => body fuel (soFar.push (.assertion .lineStart)) rest
    | '$' :: rest => body fuel (soFar.push (.assertion .lineEnd)) rest
    | letter :: rest => body fuel (soFar.push (.literal letter false)) rest

/-- The expression a pattern spells, if it is well formed and not nested too deeply. -/
def parse? (pattern : String) : Option Expression := do
  let letters := pattern.toList
  match ← body (letters.length + 1) ⟨false, .none, [], []⟩ letters with
  | (expression, _, []) => if expression.depth ≤ nestingLimit then some expression else none
  | _ => none

end Inspection.Regex
