import Inspection.Regex.Assembly
import Inspection.Regex.Expression
import Inspection.Text.CaseFold
import Inspection.Text.Letter

/-! Compilation resolves flags and properties and refuses what could match half a character. -/

namespace Inspection.Regex

/-- The flags in force at a place of an expression. -/
structure Flags where
  caseInsensitive : Bool
  multiLine : Bool
  dotAll : Bool
  swapGreed : Bool
  unicode : Bool
  crlf : Bool
  deriving DecidableEq, Repr, Inhabited

namespace Flags

/-- At first only the Unicode flag is set. -/
def initial : Flags := ⟨false, false, false, false, true, false⟩

/-- The flags after some changes. -/
def apply (flags : Flags) (changes : FlagChanges) : Flags where
  caseInsensitive := changes.caseInsensitive.getD flags.caseInsensitive
  multiLine := changes.multiLine.getD flags.multiLine
  dotAll := changes.dotAll.getD flags.dotAll
  swapGreed := changes.swapGreed.getD flags.swapGreed
  unicode := changes.unicode.getD flags.unicode
  crlf := changes.crlf.getD flags.crlf

/-- Adds the other case of every member, where case does not matter. -/
def foldCase (flags : Flags) (set : Text.CharSet) : Text.CharSet :=
  if flags.caseInsensitive then
    if flags.unicode then set.closeCase else set.closeAsciiCase
  else set

/-- The characters outside a set; without the Unicode flag these are bytes. -/
def complement (flags : Flags) (set : Text.CharSet) : Text.CharSet :=
  if flags.unicode then set.complement else set.complementUpTo 0xFF

/-- A set as it may be matched: without the Unicode flag only ASCII characters are whole bytes. -/
def admit? (flags : Flags) (set : Text.CharSet) : Option Text.CharSet :=
  if flags.unicode || set.isAscii then some set else none

/-- Folds case and then excludes the set's members, where asked to. -/
def finish? (flags : Flags) (negated : Bool) (set : Text.CharSet) : Option Text.CharSet :=
  let folded := flags.foldCase set
  flags.admit? (if negated then flags.complement folded else folded)

/-- One of the classes with a one-letter escape. -/
def short? (flags : Flags) (kind : ShortClass) (negated : Bool) : Option Text.CharSet :=
  let set := match kind, flags.unicode with
    | .digit, true => Text.digitSet
    | .space, true => Text.blankSet
    | .word, true => Text.wordSet
    | .digit, false => Text.CharSet.range 0x30 0x39
    | .space, false => Text.CharSet.ofRanges [(9, 13), (0x20, 0x20)]
    | .word, false =>
      Text.CharSet.ofRanges [(0x30, 0x39), (0x41, 0x5A), (0x5F, 0x5F), (0x61, 0x7A)]
  flags.admit? (if negated then flags.complement set else set)

/-- The characters with a property; properties need the Unicode flag. -/
def property? (flags : Flags) (query : PropertyQuery) (negated : Bool) : Option Text.CharSet := do
  if !flags.unicode then none
  let set ← match query with
    | .single name => Text.named? name
    | .valued property value => Text.valued? property value
  flags.finish? negated set

/-- A character of a range; without the Unicode flag it is an ASCII character. -/
def bound? (flags : Flags) (letter : Char) : Option Nat :=
  if flags.unicode || letter.toNat < 0x80 then some letter.toNat else none

/-- Combines two sets; where case does not matter, both sides are closed first. -/
def combine (flags : Flags) (operator : SetOperator) (left right : Text.CharSet) :
    Text.CharSet :=
  let left := flags.foldCase left
  let right := flags.foldCase right
  match operator with
  | .intersection => left.intersection right
  | .difference => left.difference right
  | .symmetricDifference => left.symmetricDifference right

end Flags

mutual

/-- The characters that the inside of brackets stands for. -/
def SetExpression.set? (flags : Flags) : SetExpression → Option Text.CharSet
  | range first last _ _ => do return .range (← flags.bound? first) (← flags.bound? last)
  | ascii letters negated => flags.finish? negated letters
  | short kind negated => flags.short? kind negated
  | property query negated => flags.property? query negated
  | bracketed negated content => do flags.finish? negated (← content.set? flags)
  | empty => some .empty
  | union items => SetExpression.unionOf? flags items
  | combined operator left right => do
    return flags.combine operator (← left.set? flags) (← right.set? flags)

/-- The characters of any of the items. -/
def SetExpression.unionOf? (flags : Flags) : List SetExpression → Option Text.CharSet
  | [] => some .empty
  | item :: rest => do
    return (← item.set? flags).union (← SetExpression.unionOf? flags rest)

end

/-- The program of a condition under the flags in force. -/
def Assertion.look (flags : Flags) : Assertion → Look
  | lineStart =>
    if flags.multiLine then (if flags.crlf then .lineStartCrlf else .lineStart) else .textStart
  | lineEnd =>
    if flags.multiLine then (if flags.crlf then .lineEndCrlf else .lineEnd) else .textEnd
  | textStart => .textStart
  | textEnd => .textEnd
  | wordBoundary => .boundary flags.unicode false
  | noWordBoundary => .boundary flags.unicode true
  | wordStart => .wordStart flags.unicode
  | wordEnd => .wordEnd flags.unicode
  | wordStartHalf => .wordStartHalf flags.unicode
  | wordEndHalf => .wordEndHalf flags.unicode

/-- What a dot matches; without the Unicode flag it would match half a character. -/
def dotSet? (flags : Flags) : Option Text.CharSet :=
  if !flags.unicode then none
  else if flags.dotAll then some .all
  else if flags.crlf then some (Text.CharSet.ofChars ['\n', '\r']).complement
  else some (Text.CharSet.ofChars ['\n']).complement

/-- The program that matches one member of a set. -/
def Flags.oneOf (flags : Flags) (letters : Text.CharSet) : Program :=
  .oneOf letters !flags.unicode

mutual

/-- The program of an expression and the flags in force after it. -/
def Expression.program? (flags : Flags) : Expression → Option (Program × Flags)
  | empty => some (.empty, flags)
  | .flags changes => some (.empty, flags.apply changes)
  | literal letter byte =>
    -- A two-digit code beyond ASCII is a byte of its own, which no text holds.
    if !flags.unicode && byte && 0x80 ≤ letter.toNat then none
    else some (flags.oneOf (flags.foldCase (.ofChars [letter])), flags)
  | dot => (dotSet? flags).map fun set => (flags.oneOf set, flags)
  | assertion kind => some (.look (kind.look flags), flags)
  | short kind negated => (flags.short? kind negated).map fun set => (flags.oneOf set, flags)
  | property query negated =>
    (flags.property? query negated).map fun set => (flags.oneOf set, flags)
  | bracketed negated content => do
    return (flags.oneOf (← flags.finish? negated (← content.set? flags)), flags)
  | repetition body least most lazy => do
    let (program, flags) ← body.program? flags
    return (.repeated program least most (lazy == flags.swapGreed), flags)
  | group changes capture body => do
    -- Flags set inside a group end with it.
    let (program, _) ← body.program? (flags.apply changes)
    return (capture.elim program (.capture · program), flags)
  | alternation branches => do
    let (programs, flags) ← Expression.programs? flags branches
    return (.anyOf programs, flags)
  | concatenation parts => do
    let (programs, flags) ← Expression.programs? flags parts
    return (.inSequence programs, flags)

/-- The programs of several expressions; the flags in force carry over from one to the next. -/
def Expression.programs? (flags : Flags) : List Expression → Option (List Program × Flags)
  | [] => some ([], flags)
  | part :: rest => do
    let (program, flags) ← part.program? flags
    let (programs, flags) ← Expression.programs? flags rest
    return (program :: programs, flags)

end

end Inspection.Regex
