import Inspection.Text.Blank
import Inspection.Text.CharSet

/-! An expression as it is written, before flags and properties are looked up. -/

namespace Inspection.Regex

/-- Changes to the flags; a flag that is not mentioned keeps its state. -/
structure FlagChanges where
  caseInsensitive : Option Bool
  multiLine : Option Bool
  dotAll : Option Bool
  swapGreed : Option Bool
  unicode : Option Bool
  crlf : Option Bool
  ignoreBlanks : Option Bool
  deriving Repr, Inhabited

/-- No change at all. -/
def FlagChanges.none : FlagChanges := ⟨.none, .none, .none, .none, .none, .none, .none⟩

/-- Conditions on a position. -/
inductive Assertion where
  | lineStart
  | lineEnd
  | textStart
  | textEnd
  | wordBoundary
  | noWordBoundary
  | wordStart
  | wordEnd
  | wordStartHalf
  | wordEndHalf
  deriving DecidableEq, Repr, Inhabited

/-- The classes with a one-letter escape. -/
inductive ShortClass where
  | digit
  | space
  | word
  deriving DecidableEq, Repr, Inhabited

/-- How a character property is named. -/
inductive PropertyQuery where
  | single (name : String)
  | valued (property value : String)
  deriving DecidableEq, Repr, Inhabited

/-- The ways to combine two sets inside brackets. -/
inductive SetOperator where
  | intersection
  | difference
  | symmetricDifference
  deriving DecidableEq, Repr, Inhabited

/-- What stands inside brackets. -/
inductive SetExpression where
  /-- From a first to a last character; `byte` marks those written as two-digit codes. -/
  | range (first last : Char) (firstByte lastByte : Bool)
  | ascii (letters : Text.CharSet) (negated : Bool)
  | short (kind : ShortClass) (negated : Bool)
  | property (query : PropertyQuery) (negated : Bool)
  | bracketed (negated : Bool) (content : SetExpression)
  /-- Nothing at all, as on a side of an operator that is left blank. -/
  | empty
  | union (items : List SetExpression)
  | combined (operator : SetOperator) (left right : SetExpression)
  deriving Inhabited

/-- A whole expression. -/
inductive Expression where
  | empty
  | flags (changes : FlagChanges)
  /-- One character; `byte` marks one written as a two-digit code. -/
  | literal (letter : Char) (byte : Bool)
  | dot
  | assertion (kind : Assertion)
  | short (kind : ShortClass) (negated : Bool)
  | property (query : PropertyQuery) (negated : Bool)
  | bracketed (negated : Bool) (content : SetExpression)
  /-- At least so many times, and at most so many if there is an upper bound. -/
  | repetition (body : Expression) (least : Nat) (most : Option Nat) (lazy : Bool)
  /-- A group with the flags that it sets; one that captures has a number. -/
  | group (changes : FlagChanges) (capture : Option Nat) (body : Expression)
  | alternation (branches : List Expression)
  | concatenation (parts : List Expression)
  deriving Inhabited

mutual

/-- How deeply sets are nested inside brackets. -/
def SetExpression.depth : SetExpression → Nat
  | range .. | ascii .. | short .. | property .. | empty => 0
  | bracketed _ content => content.depth + 1
  | union items => SetExpression.depthOfList items + 1
  | combined _ left right => max left.depth right.depth + 1

/-- The greatest depth among the parts of a set. -/
def SetExpression.depthOfList : List SetExpression → Nat
  | [] => 0
  | item :: rest => max item.depth (SetExpression.depthOfList rest)

end

mutual

/-- How deeply an expression is nested. -/
def Expression.depth : Expression → Nat
  | empty | flags _ | literal .. | dot | assertion _ | short .. | property .. => 0
  | bracketed _ content => content.depth + 1
  | repetition body .. => body.depth + 1
  | group _ _ body => body.depth + 1
  | alternation branches => Expression.depthOfList branches + 1
  | concatenation parts => Expression.depthOfList parts + 1

/-- The greatest depth among the parts of an expression. -/
def Expression.depthOfList : List Expression → Nat
  | [] => 0
  | part :: rest => max part.depth (Expression.depthOfList rest)

end

/-- An expression nests at most this deeply. -/
def nestingLimit : Nat := 250

end Inspection.Regex
