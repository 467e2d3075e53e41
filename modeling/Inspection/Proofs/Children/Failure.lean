import Inspection.Proofs.Children.Transparency

/-! Where one of two suppliers fails at a position, what they serve comes apart there alone. -/

namespace Inspection

namespace ChildAnswers

/-- Two suppliers answer alike but at one position, where one has a child and the other fails. -/
structure FailsAt (index : Nat) (child : Value) (error : FormatterError)
    (left right : ChildAnswers) : Prop where
  given : left index = .ok (some child)
  lost : right index = .error error
  elsewhere : ∀ position, position ≠ index → right position = left position

/-- The outcome of a position that an enumeration lists. -/
def outcome (answers : ChildAnswers) : ChildrenKind → Nat → ChildOutcome
  | .indexed count => answers.promised count
  -- By name no listed position is past the end, so the promise is not looked at.
  | .named | .undeclared => answers.promised 0

variable {index : Nat} {child : Value} {error : FormatterError} {left right : ChildAnswers}

/-- A child is listed as such. -/
theorem FailsAt.outcome_given (fails : left.FailsAt index child error right)
    (kind : ChildrenKind) : left.outcome kind index = .child child := by
  -- A child counts as such whatever has been promised.
  cases kind <;> simp only [outcome, promised, fails.given]

/-- A failure is listed as such. -/
theorem FailsAt.outcome_lost (fails : left.FailsAt index child error right)
    (kind : ChildrenKind) : right.outcome kind index = .failed index error := by
  cases kind <;> simp only [outcome, promised, fails.lost]

/-- Every other position is listed alike. -/
theorem FailsAt.outcome_elsewhere (fails : left.FailsAt index child error right)
    (kind : ChildrenKind) {position : Nat} (other : position ≠ index) :
    right.outcome kind position = left.outcome kind position := by
  -- The outcome is read off the answer alone, and that is the same.
  cases kind <;> simp only [outcome, promised, fails.elsewhere position other]

/-- A failure ends nothing. -/
theorem FailsAt.isEnd (fails : left.FailsAt index child error right) :
    right.isEnd = left.isEnd := by
  funext position
  by_cases same : position = index
  · -- Neither a child nor an error is past the end.
    simp only [ChildAnswers.isEnd, same, fails.given, fails.lost]
  · -- Everywhere else the answers are the same.
    simp only [ChildAnswers.isEnd, fails.elsewhere position same]

end ChildAnswers

namespace Handle

/-- The positions that an enumeration lists: those of the window, by name while it goes on. -/
def listed (handle : Handle) (answers : ChildAnswers) (kind : ChildrenKind) (window : Window)
    (maxNamed : Nat) : List Nat :=
  match kind with
  | .indexed _ => window.positions kind maxNamed
  | .named | .undeclared => (window.positions kind maxNamed).takeWhile (handle.goesOn answers)

variable {inquiry : Inquiry} {provider : Provider} {value : Value} {handle : Handle}

/-- No position is listed twice. -/
theorem listed_nodup (handle : Handle) (answers : ChildAnswers) (kind : ChildrenKind)
    (window : Window) (maxNamed : Nat) : (handle.listed answers kind window maxNamed).Nodup := by
  -- What is listed is a part of the window, whose positions ascend.
  have ascending := (window.positions_ascending kind maxNamed).imp Nat.ne_of_lt
  cases kind with
  | indexed count => exact ascending
  | named | undeclared => exact ascending.sublist (List.takeWhile_sublist _)

/-- An enumeration serves the outcomes of the positions that it lists. -/
theorem enumerate_listed {answers : ChildAnswers} (target : handle.target = .value value)
    (quotes : handle.Quotes answers) (answered : inquiry.Answers provider value answers)
    (kind : ChildrenKind) (window : Window) (maxNamed : Nat) (ledger : Ledger) :
    (handle.enumerate kind provider window maxNamed inquiry ledger).answer =
      (handle.listed answers kind window maxNamed).map (answers.outcome kind) := by
  -- Recording the kind changes neither what is remembered nor where the children end.
  have marked : (handle.markClassified kind).Quotes answers := by
    intro index child remembered
    rw [markClassified_child?] at remembered
    exact quotes index child remembered
  have onward := goesOn_congr (markClassified_namedEnd handle kind) answers
  simp only [enumerate, target, listed, ← onward]
  cases kind with
  -- With a size every position of the window is served.
  | indexed count => exact serveIndexed_uncached answered count _ _ marked ledger
  | named | undeclared =>
    -- Without one serving goes on until the end.
    rw [Window.positions_of_unsized window maxNamed fun count sized => by cases sized]
    exact serveNamed_goesOn answered _ _ marked ledger 0

/-- Both suppliers have the same positions listed. -/
theorem listed_of_failsAt {index : Nat} {child : Value} {error : FormatterError}
    {left right : ChildAnswers} (fails : left.FailsAt index child error right)
    (kind : ChildrenKind) (window : Window) (maxNamed : Nat) :
    handle.listed right kind window maxNamed = handle.listed left kind window maxNamed := by
  -- Only an end cuts the list short, and both have the same one.
  have onward : handle.goesOn right = handle.goesOn left := by
    funext position
    simp only [goesOn, fails.isEnd]
  cases kind <;> simp only [listed, onward]

end Handle

end Inspection
