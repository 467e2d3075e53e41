import Inspection.Formatter.Capabilities
import Inspection.Formatter.Error

/-! A formatter presents values of a type; what it answers may depend on the calls made before. -/

namespace Inspection

/-- Where a formatter comes from. -/
inductive Source where
  /-- The presentation every value has without a registered formatter. -/
  | native
  | user (name : String)
  deriving DecidableEq, Repr, Inhabited

/-- The name under which calls are counted. -/
def Source.name : Source → String
  | native => "native"
  | user name => name

/-- A call that was made to a formatter, with the answer that came back. -/
inductive Call where
  | size (source : Source) (value : Value) (answer : Except FormatterError Nat)
  | child (source : Source) (value : Value) (key : ChildKey)
      (answer : Except FormatterError (Option Value))
  | summary (source : Source) (value : Value) (answer : Except FormatterError (Option String))

namespace Call

/-- The formatter that was called. -/
def source : Call → Source
  | size source _ _ | child source _ _ _ | summary source _ _ => source

/-- The value that the call was about. -/
def value : Call → Value
  | size _ value _ | child _ value _ _ | summary _ value _ => value

/-- Whether the call asked for a size. -/
def isSize : Call → Bool
  | size .. => true
  | child .. | summary .. => false

/-- Whether the call asked for a child. -/
def isChild : Call → Bool
  | child .. => true
  | size .. | summary .. => false

/-- Whether the call was given up at its time limit. -/
def timedOut : Call → Bool
  | size _ _ (.error error) | child _ _ _ (.error error) | summary _ _ (.error error) =>
    error.isTimeout
  | size _ _ (.ok _) | child _ _ _ (.ok _) | summary _ _ (.ok _) => false

end Call

/--
What becomes of a call into foreign code.

Each way carries what the call answers in place, where nobody limits it. A call that has no such
answer, as it never ends or takes the whole program down, is an attempt only under a limit, and
then whatever stands for the answer is not used.
-/
inductive Attempt (α : Type) where
  | returns (answer : α)
  /-- The call takes longer than any limit. -/
  | outlasts (answer : α)
  /-- The helper that is to make the call does not begin, or dies before it answers. -/
  | lost (answer : α)
  deriving Inhabited

/-- The same attempt with another answer. -/
def Attempt.map (change : α → β) : Attempt α → Attempt β
  | returns answer => returns (change answer)
  | outlasts answer => outlasts (change answer)
  | lost answer => lost (change answer)

/-- A presentation of values: each answer may depend on the calls made so far, newest first. -/
structure Formatter where
  capabilities : TypeInfo → Capabilities
  summary : List Call → Replay → Value → Attempt (Option String)
  size : List Call → Replay → Value → Attempt (Except FormatterError Nat)
  /-- No child means that the key is past the end. -/
  child : List Call → Replay → Value → ChildKey → Attempt (Except FormatterError (Option Value))

/-- A formatter chosen for a type, together with where it comes from. -/
structure Provider where
  source : Source
  formatter : Formatter

/-- Whether this is the presentation without a registered formatter. -/
def Provider.isNative (provider : Provider) : Bool :=
  match provider.source with
  | .native => true
  | .user _ => false

end Inspection
