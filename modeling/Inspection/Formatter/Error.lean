import Inspection.Replay

/-! A formatter call fails by its own report, by running too long, or by dying. -/

namespace Inspection

/-- The questions that can be put to a formatter. -/
inductive Operation where
  | size
  | child
  | summary
  deriving DecidableEq, Repr, Inhabited

/-- The word for an operation in messages. -/
def Operation.text : Operation → String
  | size => "size"
  | child => "materialize"
  | summary => "summary"

/-- A decimal fraction of three places without closing zeros; nothing when it is zero. -/
def thousandthsText (thousandths : Nat) : String :=
  let digits := [thousandths / 100 % 10, thousandths / 10 % 10, thousandths % 10]
  let kept := (digits.reverse.dropWhile (· == 0)).reverse
  if kept.isEmpty then "" else "." ++ String.join (kept.map toString)

/-- A span of milliseconds in the largest unit that it fills. -/
def durationText (milliseconds : Nat) : String :=
  if milliseconds = 0 then "0ns"
  else if milliseconds < 1000 then toString milliseconds ++ "ms"
  else toString (milliseconds / 1000) ++ thousandthsText (milliseconds % 1000) ++ "s"

/-- Why a formatter call gave no answer. -/
inductive FormatterError where
  | size (reason : String)
  | child (key reason : String)
  /-- The call ran longer than the given milliseconds. -/
  | timeout (operation : Operation) (limit : Nat)
  | aborted (operation : Operation)
  | engine (reason : String)
  deriving DecidableEq, Repr, Inhabited

namespace FormatterError

/-- The wording of a formatter error. -/
def message : FormatterError → String
  | size reason => "size query failed: " ++ reason
  | child key reason => "failed to materialize child " ++ key ++ ": " ++ reason
  | timeout operation limit => operation.text ++ " timed out after " ++ durationText limit
  | aborted operation => "formatter aborted during " ++ operation.text
  | engine reason => "engine error: " ++ reason

/-- Whether a call was given up at its time limit. -/
def isTimeout : FormatterError → Bool
  | timeout _ _ => true
  | size _ | child _ _ | aborted _ | engine _ => false

/-- An error of the stopped program, passed on by a formatter. -/
def ofReplay (error : ReplayError) : FormatterError := engine error.message

end FormatterError

end Inspection
