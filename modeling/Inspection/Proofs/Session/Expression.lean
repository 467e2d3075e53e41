import Inspection.Proofs.Path.Scan
import Inspection.Session

/-! An expression is refused exactly if it spells no path, and what has been walked can be read. -/

namespace Inspection

namespace Session

/-- An expression that is neither marked nor a path is refused and changes nothing. -/
theorem evaluate_of_unparsed (session : Session) (frame : Nat) {expression : String}
    (unmarked : (Text.trim expression).toList.head? ≠ some Console.mark)
    (unparsed : Path.parse? (Text.trim expression) = none) :
    session.evaluate frame expression =
      (.error (.invalidExpression (Text.trim expression)), session) := by
  -- Without the mark the expression is read as a path, which fails before anything is asked for.
  rw [evaluate, if_neg unmarked]
  simp only [unparsed]

/-- An unmarked path is evaluated as the path that it spells. -/
theorem evaluate_of_parsed (session : Session) (frame : Nat) {expression : String} {path : Path}
    (unmarked : (Text.trim expression).toList.head? ≠ some Console.mark)
    (parsed : Path.parse? (Text.trim expression) = some path) :
    session.evaluate frame expression =
      ((session.evaluatePath frame path).1.map .value, (session.evaluatePath frame path).2) := by
  -- Without the mark the expression is read as a path.
  rw [evaluate, if_neg unmarked]
  simp only [parsed]

/-- A walk goes on from a child that is given. -/
theorem walk_of_child {session next : Session} {value child : Value} {key : ChildKey}
    (followed : session.follow value key = (.ok (some child), next)) (walked : String)
    (rest : List ChildKey) :
    session.walk value walked (key :: rest) = next.walk child (walked ++ key.segment) rest := by
  -- The key leads to the child, from which the other keys are followed.
  simp only [walk, followed]

/-- A walk that fails has come to a value, and there a key has no child or asking for it fails. -/
theorem walk_stops {session later : Session} {current : Value} {walked : String}
    {keys : List ChildKey} {error : InspectError}
    (failed : session.walk current walked keys = (.error error, later)) :
    ∃ front key back value between answer, keys = front ++ key :: back ∧
      session.walk current walked front = (.ok value, between) ∧
      between.follow value key = (answer, later) ∧
      ((∃ cause, answer = .error cause ∧ error = .formatter cause) ∨
        (answer = .ok none ∧ error = .noSuchChild
          (front.foldl (fun walked key => walked ++ key.segment) walked) key.text)) := by
  -- The induction is on the keys, the first of which leads on unless the walk stops at it.
  induction keys generalizing session current walked with
  | nil => cases failed
  | cons key rest ih =>
    -- The walk stops here if asking fails or gives no child, and else it goes on from the child.
    rcases followed : session.follow current key with ⟨cause | _ | child, next⟩
    · -- Asking has failed, and the failure is passed on.
      simp only [walk, followed] at failed
      cases failed
      exact ⟨[], key, rest, current, session, _, rfl, rfl, followed, .inl ⟨cause, rfl, rfl⟩⟩
    · -- There is no such child, and the walk so far is told.
      simp only [walk, followed] at failed
      cases failed
      exact ⟨[], key, rest, current, session, _, rfl, rfl, followed, .inr ⟨rfl, rfl⟩⟩
    · rw [walk_of_child followed] at failed
      obtain ⟨front, missed, back, value, between, answer, rfl, came, stopped, reason⟩ := ih failed
      refine ⟨key :: front, missed, back, value, between, answer, rfl, ?_, stopped, reason⟩
      rw [walk_of_child followed]
      exact came

/-- The errors of an evaluation that has not begun to walk. -/
inductive Unwalked : InspectError → Prop where
  | invalidExpression (text : String) : Unwalked (.invalidExpression text)
  | unknownVariable (name : String) (frame : Nat) : Unwalked (.unknownVariable name frame)
  | replay (cause : ReplayError) : Unwalked (.replay cause)

/-- An evaluation runs a console line, or it is refused, or it walks from a local variable. -/
inductive Evaluates (session : Session) (frame : Nat) (expression : String) :
    Except InspectError Evaluation × Session → Prop where
  | console (output : String) (later : Session) :
      Evaluates session frame expression (.ok (.console output), later)
  | refused {error : InspectError} (unwalked : Unwalked error) :
      Evaluates session frame expression (.error error, session)
  | stopped {path : Path} {locals : List Value} {start : Value} {error : InspectError}
      {later : Session} (parsed : Path.parse? (Text.trim expression) = some path)
      (found : session.replay.locals frame = .ok locals)
      (first : (locals.find? fun candidate => candidate.name == path.root) = some start)
      (came : session.walk start path.root path.keys = (.error error, later)) :
      Evaluates session frame expression (.error error, later)
  | reached {path : Path} {locals : List Value} {start value : Value} {next : Session}
      (parsed : Path.parse? (Text.trim expression) = some path)
      (found : session.replay.locals frame = .ok locals)
      (first : (locals.find? fun candidate => candidate.name == path.root) = some start)
      (came : session.walk start path.root path.keys = (.ok value, next)) :
      Evaluates session frame expression
        (.ok (.value (next.describe value).1), (next.describe value).2)

/-- Each evaluation takes one of the courses. -/
theorem evaluates (session : Session) (frame : Nat) (expression : String) :
    session.Evaluates frame expression (session.evaluate frame expression) := by
  -- A mark makes a console line; anything else is read, looked up and walked, in this order.
  by_cases marked : (Text.trim expression).toList.head? = some Console.mark
  · rw [evaluate, if_pos marked]
    exact .console _ _
  cases parsed : Path.parse? (Text.trim expression) with
  | none =>
    rw [evaluate_of_unparsed session frame marked parsed]
    exact .refused (.invalidExpression _)
  | some path =>
    rw [evaluate_of_parsed session frame marked parsed]
    simp only [evaluatePath, reach]
    cases found : session.replay.locals frame with
    | error cause => exact .refused (.replay cause)
    | ok locals =>
      simp only
      cases first : locals.find? fun candidate => candidate.name == path.root with
      | none => exact .refused (.unknownVariable path.root frame)
      | some start =>
        simp only
        rcases came : session.walk start path.root path.keys with ⟨_ | value, next⟩
        · exact .stopped parsed found first came
        · exact .reached parsed found first came

/-- Where a child is missing, the walk has come to a value, and the failure tells how. -/
theorem evaluate_stops {session later : Session} {frame : Nat} {expression reached missing : String}
    (failed : session.evaluate frame expression = (.error (.noSuchChild reached missing), later)) :
    ∃ root front key back locals start value between,
      Path.parse? (Text.trim expression) = some ⟨root, front ++ key :: back⟩ ∧
      reached = Path.text ⟨root, front⟩ ∧ missing = key.text ∧
      session.replay.locals frame = .ok locals ∧
      (locals.find? fun candidate => candidate.name == root) = some start ∧
      session.walk start root front = (.ok value, between) ∧
      between.follow value key = (.ok none, later) := by
  -- Of all the courses only a walk ends with a missing child.
  have course := session.evaluates frame expression
  rw [failed] at course
  cases course with
  | refused unwalked => cases unwalked
  | @stopped path _ _ _ _ parsed found first came =>
    obtain ⟨root, keys⟩ := path
    obtain ⟨front, key, back, value, between, answer, rfl, walked, followed,
      ⟨_, _, other⟩ | ⟨rfl, reason⟩⟩ := walk_stops came
    · cases other
    · -- The failure tells what the walk had come to.
      obtain ⟨told, named⟩ := InspectError.noSuchChild.inj reason
      exact ⟨root, front, key, back, _, _, value, between, parsed, told, named, found, first,
        walked, followed⟩

/-- An expression that leads to no child tells the part of its path that has been walked. -/
theorem evaluate_noSuchChild {session : Session} {frame : Nat} {expression reached missing : String}
    (failed : (session.evaluate frame expression).1 = .error (.noSuchChild reached missing)) :
    ∃ path front key back, Path.parse? (Text.trim expression) = some path ∧
      path.keys = front ++ key :: back ∧ missing = key.text ∧
      reached = Path.text ⟨path.root, front⟩ := by
  -- What the failure tells does not depend on the session that is left.
  have whole : session.evaluate frame expression =
      (.error (.noSuchChild reached missing), (session.evaluate frame expression).2) :=
    Prod.ext failed rfl
  obtain ⟨root, front, key, back, _, _, _, _, parsed, told, named, _⟩ := evaluate_stops whole
  exact ⟨_, front, key, back, parsed, rfl, named, told⟩

end Session

namespace Path

/-- Paths are read from exactly their writings, by a scan that cuts between letters only; anything
else is refused, and what has been walked of a path is told in words that are read as that part. -/
theorem reading_exact (text : String) :
    (∀ path : Path, parse? text = some path ↔ path.SpelledBy text) ∧
    ((∀ path : Path, ¬ path.SpelledBy text) → text.toList.head? ≠ some Console.mark →
      ∀ (session : Session) (frame : Nat) (expression : String), Text.trim expression = text →
        session.evaluate frame expression = (.error (.invalidExpression text), session)) ∧
    (∀ path : Path, path.WellFormed → parse? path.text = some path) ∧
    (∀ (session : Session) (frame : Nat) (reached missing : String),
      (session.evaluate frame text).1 = .error (.noSuchChild reached missing) →
        ∃ root front key back, parse? (Text.trim text) = some ⟨root, front ++ key :: back⟩ ∧
          parse? reached = some ⟨root, front⟩ ∧ missing = key.text) ∧
    scanPath text = some (parse? text) ∧
    ∀ offset, (cut? offset text.toList).isSome ↔ (⟨offset⟩ : String.Pos.Raw).IsValid text := by
  refine ⟨fun path => parse?_eq_some_iff, ?_, fun path wellFormed => wellFormed.parse?_text, ?_,
    scanPath_eq text, fun _ => isSome_cut?_iff⟩
  · -- What spells no path is not read, and so is refused as it stands.
    rintro unspelled unmarked session frame expression rfl
    exact session.evaluate_of_unparsed frame unmarked (parse?_eq_none_iff.mpr unspelled)
  · intro session frame reached missing failed
    obtain ⟨⟨root, keys⟩, front, key, back, parsed, rfl, named, rfl⟩ :=
      Session.evaluate_noSuchChild failed
    -- A part of a path that is spelled could be spelled by itself.
    have wellFormed := (parse?_eq_some_iff.mp parsed).wellFormed
    have part : WellFormed ⟨root, front⟩ :=
      ⟨wellFormed.root, fun key mem => wellFormed.keys key (List.mem_append_left _ mem)⟩
    exact ⟨root, front, key, back, parsed, part.parse?_text, named⟩

end Path

end Inspection
