import Inspection.Proofs.Children.Run

/-! Two pages that follow each other serve what one page over both serves. -/

namespace Inspection

namespace Handle

variable {inquiry : Inquiry} {provider : Provider} {value : Value} {handle : Handle}

/-- What has been recorded of a handle's state shows in no fetch. -/
theorem fetch_ofState (inquiry : Inquiry) (provider : Provider) (value : Value) (handle : Handle)
    (state : HandleState) (index : Nat) (ledger : Ledger) :
    fetch inquiry provider value index { handle with state } ledger =
      let step := handle.fetch inquiry provider value index ledger
      ⟨step.answer, { step.handle with state }, step.ledger⟩ := by
  -- Children are looked up beside the state and remembered beside it.
  have same : child? { handle with state } index = handle.child? index := rfl
  cases found : handle.child? index with
  | some child =>
    rw [fetch_of_remembered inquiry provider value ledger found,
      fetch_of_remembered inquiry provider value ledger (same.trans found)]
  | none =>
    rw [fetch_of_unknown inquiry provider value ledger found,
      fetch_of_unknown inquiry provider value ledger (same.trans found)]
    rcases (inquiry.child provider value (.position index) ledger).1 with error | _ | child <;> rfl

/-- What has been recorded of a handle's state shows in no run. -/
theorem serveRun_ofState (kind : ChildrenKind) (remaining index : Nat) (handle : Handle)
    (state : HandleState) (ledger : Ledger) :
    serveRun inquiry provider value kind remaining index { handle with state } ledger =
      let served := serveRun inquiry provider value kind remaining index handle ledger
      ⟨served.answer, { served.handle with state }, served.ledger⟩ := by
  -- Both handles stop at the same positions, and fetch the same answers.
  have same : ∀ (handle : Handle) (index : Nat),
      stopsAt { handle with state } kind index = handle.stopsAt kind index := by
    intro handle index
    cases kind <;> rfl
  induction remaining, index, handle, ledger using serveRun_induct inquiry provider value kind with
  | zero => simp only [serveRun_zero]
  | stopped further index handle ledger stops =>
    rw [serveRun_of_stops stops, serveRun_of_stops ((same handle index).trans stops)]
  | ended further index handle ledger onward shown =>
    -- The answer past the end is the same, and the end is marked beside the state.
    have fetched := fetch_ofState inquiry provider value handle state index ledger
    have answers := congrArg Enumerated.answer fetched
    rw [serveRun_of_end onward shown,
      serveRun_of_end ((same handle index).trans onward) (answers ▸ shown), fetched]
  | outcome further index handle ledger outcome onward shown ih =>
    -- The answer is the same, and the rest follows by induction.
    have fetched := fetch_ofState inquiry provider value handle state index ledger
    have answers := congrArg Enumerated.answer fetched
    rw [serveRun_of_outcome onward shown,
      serveRun_of_outcome ((same handle index).trans onward) (answers ▸ shown), fetched]
    simp only [ih]

/-- A run is served by serving its first part and then the rest from what that leaves. -/
theorem serveRun_add (kind : ChildrenKind) (first second index : Nat) (handle : Handle)
    (ledger : Ledger) :
    serveRun inquiry provider value kind (first + second) index handle ledger =
      let page := serveRun inquiry provider value kind first index handle ledger
      let rest := serveRun inquiry provider value kind second (index + first) page.handle
        page.ledger
      ⟨page.answer ++ rest.answer, rest.handle, rest.ledger⟩ := by
  -- The induction is on the first part.
  induction first, index, handle, ledger using serveRun_induct inquiry provider value kind with
  | zero => simp only [serveRun_zero, Nat.zero_add, Nat.add_zero, List.nil_append]
  | stopped further index handle ledger stops =>
    -- Where the first part stops the rest stops as well.
    rw [Nat.succ_add_eq_add_succ, Nat.add_succ]
    simp only [serveRun_of_stops stops, List.nil_append,
      serveRun_of_stops (stopsAt_mono stops (Nat.le_add_right index (further + 1)))]
  | ended further index handle ledger onward shown =>
    -- An end that is found in the first part stops the rest.
    rw [Nat.succ_add_eq_add_succ, Nat.add_succ, serveRun_of_end onward shown,
      serveRun_of_end onward shown]
    have past := stopsAt_mono (stopsAt_markEnd shown
      (handle.fetch inquiry provider value index ledger).handle)
      (Nat.le_add_right index (further + 1))
    simp only [serveRun_of_stops past, List.nil_append]
  | outcome further index handle ledger outcome onward shown ih =>
    rw [Nat.succ_add_eq_add_succ, Nat.add_succ, serveRun_of_outcome onward shown,
      serveRun_of_outcome onward shown]
    -- Otherwise the first position goes to the front of both.
    simp only [ih, List.cons_append, Nat.add_right_comm index 1 further, Nat.add_assoc]

/-- Two pages have runs that follow each other and together are the run of one page over both. -/
theorem run_pages (kind : ChildrenKind) {start first second : Nat}
    (fits : start + first + second ≤ maxPosition) (maxNamed : Nat) :
    let page := Window.run ⟨start, some first⟩ kind maxNamed
    let next := Window.run ⟨start + first, some second⟩ kind maxNamed
    next.1 = page.1 + page.2 ∧
      Window.run ⟨start, some (first + second)⟩ kind maxNamed = (page.1, page.2 + next.2) := by
  -- Within the words no sum stops early, and a known number cuts all three windows alike.
  have whole : addPosition start (first + second) = start + first + second := by
    simp only [addPosition]
    omega
  have page : addPosition start first = start + first := by
    simp only [addPosition]
    omega
  have next : addPosition (start + first) second = start + first + second := by
    simp only [addPosition]
    omega
  cases kind with
  | indexed count =>
    -- With a size the run ends at the size if the window does not end before it.
    simp only [Window.run, Window.range, whole, page, next, Prod.mk.injEq, true_and]
    omega
  | named | undeclared =>
    simp only [Window.run, Option.getD_some, whole, page, next, Prod.mk.injEq, true_and]
    omega

/--
Two pages that follow each other are one page over both.

They show what it shows, leave the handle that it leaves, and make the calls that it makes.
-/
theorem enumerate_pages (target : handle.target = .value value) (kind : ChildrenKind)
    (provider : Provider) (inquiry : Inquiry) {start first second : Nat}
    (fits : start + first + second ≤ maxPosition) (maxNamed : Nat) (ledger : Ledger) :
    let page := handle.enumerate kind provider ⟨start, some first⟩ maxNamed inquiry ledger
    let next := page.handle.enumerate kind provider ⟨start + first, some second⟩ maxNamed inquiry
      page.ledger
    let whole := handle.enumerate kind provider ⟨start, some (first + second)⟩ maxNamed inquiry
      ledger
    whole.answer = page.answer ++ next.answer ∧ whole.handle = next.handle ∧
      whole.ledger = next.ledger := by
  intro page next whole
  obtain ⟨follows, together⟩ := run_pages kind fits maxNamed
  -- The record of the first page is part of the state, which the second run does not look at.
  have pageKept : page.handle.target = .value value :=
    (enumerate_frame handle kind provider _ maxNamed inquiry ledger).1.trans target
  simp only [whole, next, enumerate_of_value pageKept]
  simp only [page, enumerate_of_value target, markClassified_recordWindow, follows, together,
    serveRun_add]
  -- The last record overwrites the one in between.
  simp only [recordWindow, serveRun_ofState]
  exact ⟨trivial, recordWindow_ofState _ _ kind, trivial⟩

/-- A list is shown by one element and then by the rest, which is broken and ends in the page. -/
theorem enumerate_pages_of_list :
    let element : Value := ⟨.given 1, "first", ⟨"int", .scalar⟩, "1"⟩
    let list : Value := ⟨.given 0, "list", ⟨"List", .scalar⟩, "[..]"⟩
    let formatter : Formatter :=
      ⟨fun _ => .byName, fun _ _ _ => .returns none, fun _ _ _ => .returns (.ok 2),
        fun _ _ _ key => match key with
          | .position 0 => .returns (.ok (some element))
          | .position 1 => .returns (.error (.child "[1]" "broken"))
          | _ => .returns (.ok none)⟩
    let page (handle : Handle) (window : Window) (ledger : Ledger) :=
      handle.enumerate .named ⟨.user "list", formatter⟩ window 10 ⟨⟨[], 0⟩, .unbounded⟩ ledger
    let first := page (fresh (.value list)) ⟨0, some 1⟩ .empty
    let next := page first.handle ⟨1, some 3⟩ first.ledger
    let whole := page (fresh (.value list)) ⟨0, some 4⟩ .empty
    0 + 1 + 3 ≤ maxPosition ∧ first.answer = [.child element] ∧
      next.answer = [.failed 1 (.child "[1]" "broken")] ∧ next.handle.namedEnd = some 2 ∧
      whole.answer = [.child element, .failed 1 (.child "[1]" "broken")] ∧
      whole.handle = next.handle ∧ whole.ledger = next.ledger := by
  intro element list formatter page first next whole
  have fits : 0 + 1 + 3 ≤ maxPosition := by decide
  obtain ⟨answers, handles, ledgers⟩ := enumerate_pages (show (fresh (.value list)).target = _ from
    rfl) .named ⟨.user "list", formatter⟩ ⟨⟨[], 0⟩, .unbounded⟩ fits 10 .empty
  exact ⟨fits, rfl, rfl, rfl, answers, handles, ledgers⟩

end Handle

end Inspection
