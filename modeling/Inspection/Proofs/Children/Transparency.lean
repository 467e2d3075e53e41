import Inspection.Proofs.Children.Enumeration

/-! What a handle remembers saves calls and never shows in what it serves. -/

namespace Inspection

/-- What there is to be had of a value's children, by position. -/
abbrev ChildAnswers := Nat → Except FormatterError (Option Value)

/-- A provider answers by position alike, whatever calls were made before. -/
def Inquiry.Answers (inquiry : Inquiry) (provider : Provider) (value : Value)
    (answers : ChildAnswers) : Prop :=
  ∀ index ledger, (inquiry.child provider value (.position index) ledger).1 = answers index

namespace ChildAnswers

/-- Behind a position past the end there is nothing either. -/
def EndForGood (answers : ChildAnswers) : Prop :=
  ∀ first later, first ≤ later → answers first = .ok none → answers later = .ok none

/-- The outcome of a position for which a size promises a child. -/
def promised (answers : ChildAnswers) (count index : Nat) : ChildOutcome :=
  match answers index with
  | .ok (some child) => .child child
  | .ok none => .failed index (Handle.missingChild count index)
  | .error error => .failed index error

/-- The outcomes of some positions, ending before the first one past the end. -/
def untilEnd (answers : ChildAnswers) : List Nat → List ChildOutcome
  | [] => []
  | index :: rest =>
    match answers index with
    | .ok (some child) => .child child :: untilEnd answers rest
    | .ok none => []
    -- A failure takes the place of its own child and ends nothing.
    | .error error => .failed index error :: untilEnd answers rest

/-- Whether there is nothing to be had at a position. -/
def isEnd (answers : ChildAnswers) (index : Nat) : Bool :=
  match answers index with
  | .ok none => true
  | .ok (some _) | .error _ => false

/-- Up to the end, outcomes are those of positions for which a child was promised. -/
theorem untilEnd_eq_map (answers : ChildAnswers) (count : Nat) (positions : List Nat) :
    answers.untilEnd positions =
      (positions.takeWhile fun index => !answers.isEnd index).map (answers.promised count) := by
  -- The induction is on the positions, and the first one past the end drops all that follow.
  induction positions with
  | nil => rfl
  | cons index rest ih =>
    rcases found : answers index with error | _ | child <;>
      simp [untilEnd, isEnd, promised, found, ih]

/-- What a window shows if every position is asked for anew. -/
def uncached (answers : ChildAnswers) (kind : ChildrenKind) (window : Window) (maxNamed : Nat) :
    List ChildOutcome :=
  match kind with
  | .indexed count => (window.positions kind maxNamed).map (answers.promised count)
  | .named | .undeclared => answers.untilEnd (window.positions kind maxNamed)

end ChildAnswers

namespace Handle

variable {inquiry : Inquiry} {provider : Provider} {value : Value} {answers : ChildAnswers}
  {handle : Handle}

/-- Every child that a handle remembers is the one that would be answered now. -/
def Quotes (handle : Handle) (answers : ChildAnswers) : Prop :=
  ∀ index child, handle.child? index = some child → answers index = .ok (some child)

/-- What a handle remembers is what would be answered now. -/
structure Recalls (handle : Handle) (answers : ChildAnswers) : Prop where
  children : handle.Quotes answers
  ended : ∀ bound, handle.namedEnd = some bound → answers bound = .ok none

/-- A fresh handle remembers nothing. -/
theorem recalls_fresh (target : HandleTarget) (answers : ChildAnswers) :
    (fresh target).Recalls answers := ⟨nofun, nofun⟩

/-- The state of a handle remembers nothing. -/
theorem Recalls.ofState (recalls : handle.Recalls answers) (state : HandleState) :
    Recalls { handle with state } answers := ⟨recalls.children, recalls.ended⟩

/-- Recording a kind keeps what is remembered true. -/
theorem Recalls.markClassified (recalls : handle.Recalls answers) (kind : ChildrenKind) :
    (handle.markClassified kind).Recalls answers := by
  -- Only the state can differ.
  rcases markClassified_eq handle kind with same | same
  · rw [same]
    exact recalls
  · rw [same]
    exact recalls.ofState _

/-- What is learned from an answer is true. -/
theorem Quotes.learn (quotes : handle.Quotes answers) (index : Nat) :
    (handle.learn index (answers index)).Quotes answers := by
  -- An error and an empty answer leave nothing remembered.
  cases answered : answers index with
  | error error => exact quotes
  | ok found =>
    cases found with
    | none => exact quotes
    | some child =>
      -- Only the position that was asked for is remembered anew.
      intro other remembered known
      rw [Handle.learn, child?_remember] at known
      split at known
      · rename_i same
        cases known
        rw [same, answered]
      · exact quotes other remembered known

/-- Fetching answers as the provider would, and the child it leaves remembered is that answer. -/
theorem fetch_quotes (answered : inquiry.Answers provider value answers)
    (quotes : handle.Quotes answers) (index : Nat) (ledger : Ledger) :
    (handle.fetch inquiry provider value index ledger).answer = answers index ∧
      (handle.fetch inquiry provider value index ledger).handle.Quotes answers ∧
      (handle.fetch inquiry provider value index ledger).handle.namedEnd = handle.namedEnd := by
  -- A remembered child is what would be answered; any other is asked for and learned.
  cases found : handle.child? index with
  | some child =>
    rw [fetch_of_remembered inquiry provider value ledger found]
    exact ⟨(quotes index child found).symm, quotes, rfl⟩
  | none =>
    rw [fetch_of_unknown inquiry provider value ledger found]
    simp only [answered index ledger]
    exact ⟨trivial, quotes.learn index, learn_namedEnd ..⟩

/-- Fetching answers as the provider would, and what it leaves remembered is true. -/
theorem fetch_answers (answered : inquiry.Answers provider value answers)
    (recalls : handle.Recalls answers) (index : Nat) (ledger : Ledger) :
    (handle.fetch inquiry provider value index ledger).answer = answers index ∧
      (handle.fetch inquiry provider value index ledger).handle.Recalls answers := by
  -- A fetch moves no end, so only the children matter.
  obtain ⟨answer, quotes, same⟩ := fetch_quotes answered recalls.children index ledger
  refine ⟨answer, quotes, fun bound ended => ?_⟩
  rw [same] at ended
  exact recalls.ended bound ended

/-- Fetches keep what is remembered true, also where they find the end. -/
theorem recalls_maintained (answered : inquiry.Answers provider value answers) :
    Maintained inquiry provider value fun handle _ => handle.Recalls answers := by
  constructor
  · exact fun index handle ledger recalls => (fetch_answers answered recalls index ledger).2
  · -- The end is marked where nothing was answered.
    intro index handle ledger recalls past
    obtain ⟨answer, kept⟩ := fetch_answers answered recalls index ledger
    refine ⟨kept.children, fun bound ended => ?_⟩
    cases ended
    rw [← answer, past]

/-- By position, every outcome is what the provider would answer. -/
theorem serveIndexed_uncached (answered : inquiry.Answers provider value answers)
    (count remaining index : Nat) (quotes : handle.Quotes answers) (ledger : Ledger) :
    (serveIndexed inquiry provider value count remaining index handle ledger).answer =
      (List.range' index remaining).map (answers.promised count) := by
  -- The induction is on the positions left, from the handle that the first fetch leaves.
  induction remaining generalizing index handle ledger with
  | zero => rfl
  | succ further ih =>
    obtain ⟨answer, kept, _⟩ := fetch_quotes answered quotes index ledger
    -- The rest is served from the handle and the ledger of the first fetch.
    have rest := ih (index + 1) kept (handle.fetch inquiry provider value index ledger).ledger
    rw [List.range'_succ, List.map_cons, ← rest]
    rcases found : answers index with error | _ | child <;>
      simp only [serveIndexed, ChildAnswers.promised, answer, found]

/-- Whether an enumeration by name goes on at a position. -/
def goesOn (handle : Handle) (answers : ChildAnswers) (index : Nat) : Bool :=
  !handle.isPastEnd index && !answers.isEnd index

/-- Only the remembered end of a handle decides where an enumeration goes on. -/
theorem goesOn_congr {other : Handle} (same : other.namedEnd = handle.namedEnd)
    (answers : ChildAnswers) : other.goesOn answers = handle.goesOn answers := by
  -- The end is looked up in the handle, the rest in the answers.
  funext position
  simp only [goesOn, isPastEnd, same]

/-- By name, the outcomes are what the provider would answer as long as the enumeration goes on. -/
theorem serveNamed_goesOn (answered : inquiry.Answers provider value answers)
    (remaining index : Nat) (quotes : handle.Quotes answers) (ledger : Ledger) (count : Nat) :
    (serveNamed inquiry provider value remaining index handle ledger).answer =
      ((List.range' index remaining).takeWhile (handle.goesOn answers)).map
        (answers.promised count) := by
  -- The induction is on the positions left; a fetch leaves the remembered end where it was.
  induction remaining generalizing index handle ledger with
  | zero => rfl
  | succ further ih =>
    obtain ⟨answer, kept, same⟩ := fetch_quotes answered quotes index ledger
    have rest := ih (index + 1) kept (handle.fetch inquiry provider value index ledger).ledger
    rw [goesOn_congr same] at rest
    rw [List.range'_succ, List.takeWhile_cons]
    simp only [serveNamed]
    cases past : handle.isPastEnd index with
    -- Past the remembered end nothing is served.
    | true => simp [goesOn, past]
    | false =>
      -- Before it the answer decides whether the enumeration goes on.
      rcases found : answers index with error | _ | child <;>
        simp [goesOn, past, ChildAnswers.isEnd, answer, found, rest, ChildAnswers.promised]

/-- By name, the outcomes are what the provider would answer until its end. -/
theorem serveNamed_uncached (ends : answers.EndForGood)
    (answered : inquiry.Answers provider value answers) (remaining index : Nat)
    (recalls : handle.Recalls answers) (ledger : Ledger) :
    (serveNamed inquiry provider value remaining index handle ledger).answer =
      answers.untilEnd (List.range' index remaining) := by
  -- A remembered end is a true one, and behind it there is nothing.
  have same : handle.goesOn answers = fun position => !answers.isEnd position := by
    funext position
    simp only [goesOn, isPastEnd]
    split
    · rename_i bound ended
      by_cases beyond : bound ≤ position
      · -- Behind the remembered end no answer has a child.
        have nothing := ends bound position beyond (recalls.ended bound ended)
        simp [beyond, ChildAnswers.isEnd, nothing]
      · simp [beyond]
    · rfl
  rw [serveNamed_goesOn answered remaining index recalls.children ledger 0, same,
    ChildAnswers.untilEnd_eq_map _ 0]

/-- What is remembered never shows in what a window shows. -/
theorem enumerate_uncached (target : handle.target = .value value)
    (recalls : handle.Recalls answers) (ends : answers.EndForGood)
    (answered : inquiry.Answers provider value answers) (kind : ChildrenKind) (window : Window)
    (maxNamed : Nat) (ledger : Ledger) :
    (handle.enumerate kind provider window maxNamed inquiry ledger).answer =
      answers.uncached kind window maxNamed := by
  -- The kind decides how children are served, and it is recorded first.
  have marked := recalls.markClassified kind
  simp only [enumerate, target, ChildAnswers.uncached]
  cases kind with
  | indexed count => exact serveIndexed_uncached answered count _ _ marked.children ledger
  | named | undeclared =>
    -- Without a size the window is a run from its start.
    rw [Window.positions_of_unsized window maxNamed fun count sized => by cases sized]
    exact serveNamed_uncached ends answered _ _ marked ledger

/-- The handles that enumerations of one kind lead to from a fresh one. -/
inductive Paged (value : Value) (answers : ChildAnswers) (kind : ChildrenKind) : Handle → Prop where
  | fresh : Paged value answers kind (.fresh (.value value))
  /-- The kind may be recorded before and between enumerations. -/
  | marked {handle : Handle} (paged : Paged value answers kind handle) :
      Paged value answers kind (handle.markClassified kind)
  | enumerated {handle : Handle} (paged : Paged value answers kind handle) {inquiry : Inquiry}
      {provider : Provider} (answered : inquiry.Answers provider value answers) (window : Window)
      (maxNamed : Nat) (ledger : Ledger) :
      Paged value answers kind
        (handle.enumerate kind provider window maxNamed inquiry ledger).handle

/-- Whatever was enumerated before, a handle keeps its target and remembers what is true. -/
theorem Paged.recalls {kind : ChildrenKind} (paged : Paged value answers kind handle) :
    handle.target = .value value ∧ handle.Recalls answers := by
  -- The induction is on the enumerations, each of which maintains what fetches maintain.
  induction paged with
  | fresh => exact ⟨rfl, recalls_fresh _ _⟩
  | marked _ ih => exact ⟨(markClassified_target _ kind).trans ih.1, ih.2.markClassified kind⟩
  | enumerated _ answered window maxNamed ledger ih =>
    obtain ⟨target, recalls⟩ := ih
    obtain ⟨served, kept, recorded⟩ := enumerate_maintained (recalls_maintained answered) target
      kind window maxNamed (recalls.markClassified kind)
    refine ⟨(enumerate_frame _ kind _ window maxNamed _ ledger).1.trans target, ?_⟩
    -- The record of the window is part of the state.
    rw [recorded]
    exact kept.ofState _

/--
Whatever was enumerated before, a window shows what it would show if nothing were remembered.

The provider answers alike at all times, and behind its end there is nothing.
-/
theorem enumerate_eq_uncached {kind : ChildrenKind} (paged : Paged value answers kind handle)
    (ends : answers.EndForGood) (answered : inquiry.Answers provider value answers)
    (window : Window) (maxNamed : Nat) (ledger : Ledger) :
    (handle.enumerate kind provider window maxNamed inquiry ledger).answer =
      answers.uncached kind window maxNamed := by
  -- Every history leaves a handle that remembers what is true.
  obtain ⟨target, recalls⟩ := paged.recalls
  exact enumerate_uncached target recalls ends answered kind window maxNamed ledger

/-- A window past the end and one at the start leave a list with a broken element to be served. -/
theorem enumerate_eq_uncached_of_list :
    let element : Value := ⟨.given 1, "first", ⟨"int", .scalar⟩, "1"⟩
    let list : Value := ⟨.given 0, "list", ⟨"List", .scalar⟩, "[..]"⟩
    let formatter : Formatter :=
      ⟨fun _ => .byName, fun _ _ _ => .returns none, fun _ _ _ => .returns (.ok 2),
        fun _ _ _ key => match key with
          | .position 0 => .returns (.ok (some element))
          | .position 1 => .returns (.error (.child "[1]" "broken"))
          | _ => .returns (.ok none)⟩
    let after (handle : Handle) (window : Window) : Enumerated (List ChildOutcome) :=
      handle.enumerate .named ⟨.user "list", formatter⟩ window 10 ⟨⟨[], 0⟩, .unbounded⟩ .empty
    let handle := (after (after (fresh (.value list)) ⟨5, some 2⟩).handle ⟨0, some 1⟩).handle
    handle.namedEnd = some 5 ∧ handle.fetched = [0] ∧
      (after handle .all).answer = [.child element, .failed 1 (.child "[1]" "broken")] := by
  intro element list formatter after handle
  let answers : ChildAnswers
    | 0 => .ok (some element)
    | 1 => .error (.child "[1]" "broken")
    | _ => .ok none
  have answered : Inquiry.Answers ⟨⟨[], 0⟩, .unbounded⟩ ⟨.user "list", formatter⟩ list answers := by
    intro index ledger
    rcases index with _ | _ | index <;> rfl
  -- From the third position on there is nothing.
  have ends : answers.EndForGood := by
    intro first later within nothing
    rcases first with _ | _ | first
    · cases nothing
    · cases nothing
    · obtain ⟨further, rfl⟩ : ∃ further, later = further + 2 := ⟨later - 2, by omega⟩
      rfl
  have paged : Paged list answers .named handle :=
    ((Paged.fresh.enumerated answered ⟨5, some 2⟩ 10 .empty).enumerated answered ⟨0, some 1⟩ 10
      .empty)
  refine ⟨rfl, rfl, ?_⟩
  exact enumerate_eq_uncached paged ends answered .all 10 .empty

end Handle

end Inspection
