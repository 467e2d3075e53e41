import Inspection.Regex.Escape

/-! Brackets hold characters, ranges, classes and further brackets, combined by set operators. -/

namespace Inspection.Regex

/-- The named classes of ASCII characters. -/
def asciiClass? (name : String) : Option Text.CharSet :=
  let lower := ('a'.toNat, 'z'.toNat)
  let upper := ('A'.toNat, 'Z'.toNat)
  let digit := ('0'.toNat, '9'.toNat)
  let ranges : Option (List (Nat × Nat)) := match name with
    | "alnum" => some [digit, upper, lower]
    | "alpha" => some [upper, lower]
    | "ascii" => some [(0, 0x7F)]
    | "blank" => some [(9, 9), (0x20, 0x20)]
    | "cntrl" => some [(0, 0x1F), (0x7F, 0x7F)]
    | "digit" => some [digit]
    | "graph" => some [(0x21, 0x7E)]
    | "lower" => some [lower]
    | "print" => some [(0x20, 0x7E)]
    | "punct" => some [(0x21, 0x2F), (0x3A, 0x40), (0x5B, 0x60), (0x7B, 0x7E)]
    | "space" => some [(9, 13), (0x20, 0x20)]
    | "upper" => some [upper]
    | "word" => some [digit, upper, (0x5F, 0x5F), lower]
    | "xdigit" => some [digit, (0x41, 0x46), (0x61, 0x66)]
    | _ => none
  ranges.map Text.CharSet.ofRanges

/-- Reads a named class of ASCII characters after its opening bracket, if it is one. -/
def namedAsciiClass? (letters : List Char) : Option (SetExpression × List Char) := do
  let (negated, name) ← match letters with
    | ':' :: '^' :: rest => some (true, rest)
    | ':' :: rest => some (false, rest)
    | _ => none
  let (name, rest) ← cutAt? [':'] name
  let rest ← match rest with
    | ']' :: rest => some rest
    | _ => none
  return (.ascii (← asciiClass? (String.ofList name)) negated, rest)

/-- One item inside brackets, which may become the end of a range. -/
def bracketItem (verbose : Bool) (letters : List Char) : Option (Expression × List Char) :=
  match letters with
  | [] => none
  | '\\' :: rest => escape verbose rest
  | letter :: rest => some (.literal letter false, rest)

/-- An item that stands alone inside brackets; conditions on the position do not. -/
def itemSet? : Expression → Option SetExpression
  | .literal letter byte => some (.range letter letter byte byte)
  | .short kind negated => some (.short kind negated)
  | .property query negated => some (.property query negated)
  | _ => none

/--
The next character after the first one of the text, where a pattern may hold blanks and comments.

Blanks and one comment sign are passed over, but not what the comment says: its first letter
counts. Where nothing else follows, the very next character counts.
-/
def peek (verbose : Bool) (letters : List Char) : Option Char :=
  let rest := letters.drop 1
  if verbose then
    let visible := match rest.dropWhile Text.isBlank with
      | '#' :: comment => comment.dropWhile Text.isBlank
      | visible => visible
    visible.head?.or rest.head?
  else rest.head?

/-- Reads one item or one range inside brackets. -/
def bracketRange (verbose : Bool) (letters : List Char) : Option (SetExpression × List Char) := do
  let (first, rest) ← bracketItem verbose letters
  let rest := skipIgnored verbose false rest
  match rest with
  | [] => none
  | '-' :: _ =>
    let next := peek verbose rest
    -- A hyphen before the end or before another hyphen forms no range.
    if next = some ']' ∨ next = some '-' then return (← itemSet? first, rest)
    else
      let (last, after) ← bracketItem verbose (advance verbose rest)
      match first, last with
      | .literal first firstByte, .literal last lastByte =>
        if first ≤ last then some (.range first last firstByte lastByte, after) else none
      | _, _ => none
  | _ => return (← itemSet? first, rest)

/-- The set of the items collected so far, newest first. -/
def itemsSet : List SetExpression → SetExpression
  | [] => .empty
  | [item] => item
  | items => .union items.reverse

/-- Applies a pending operator to the items that follow it. -/
def applyPending (pending : Option (SetOperator × SetExpression)) (items : List SetExpression) :
    SetExpression :=
  match pending with
  | none => itemsSet items
  | some (operator, left) => .combined operator left (itemsSet items)

/-- Hyphens at the start of brackets stand for themselves. -/
def leadingHyphens (verbose : Bool) (fuel : Nat) (items : List SetExpression) (letters : List Char) :
    List SetExpression × List Char :=
  match fuel, letters with
  | fuel + 1, '-' :: _ =>
    leadingHyphens verbose fuel (.range '-' '-' false false :: items) (advance verbose letters)
  | _, _ => (items, letters)

/-- Reads the opening of brackets: negation, leading hyphens and a leading closing bracket. -/
def openBracket (verbose : Bool) (letters : List Char) :
    Option (Bool × List SetExpression × List Char) :=
  let letters := advance verbose letters
  let (negated, letters) := match letters with
    | '^' :: _ => (true, advance verbose letters)
    | _ => (false, letters)
  let (items, letters) := leadingHyphens verbose letters.length [] letters
  match items, letters with
  | _, [] => none
  | [], ']' :: _ => some (negated, [.range ']' ']' false false], advance verbose letters)
  | items, letters => some (negated, items, letters)

/-- Reads the rest of open brackets; the fuel is at least the text's length. -/
def bracketBody (verbose : Bool) (fuel : Nat) (pending : Option (SetOperator × SetExpression))
    (items : List SetExpression) (letters : List Char) : Option (SetExpression × List Char) :=
  match fuel with
  | 0 => none
  | fuel + 1 =>
    let letters := skipIgnored verbose false letters
    let combine (operator : SetOperator) (rest : List Char) :=
      bracketBody verbose fuel (some (operator, applyPending pending items)) [] rest
    match letters with
    | [] => none
    | ']' :: rest => some (applyPending pending items, rest)
    | '&' :: '&' :: rest => combine .intersection rest
    | '-' :: '-' :: rest => combine .difference rest
    | '~' :: '~' :: rest => combine .symmetricDifference rest
    | '[' :: rest =>
      match namedAsciiClass? rest with
      | some (item, rest) => bracketBody verbose fuel pending (item :: items) rest
      | none => do
        let (negated, inner, rest) ← openBracket verbose letters
        let (content, rest) ← bracketBody verbose fuel none inner rest
        bracketBody verbose fuel pending (.bracketed negated content :: items) rest
    | _ => do
      let (item, rest) ← bracketRange verbose letters
      bracketBody verbose fuel pending (item :: items) rest

/-- Reads brackets from their opening on. -/
def bracket (verbose : Bool) (letters : List Char) : Option (Expression × List Char) := do
  let (negated, items, rest) ← openBracket verbose letters
  let (content, rest) ← bracketBody verbose (letters.length + 1) none items rest
  return (.bracketed negated content, rest)

end Inspection.Regex
