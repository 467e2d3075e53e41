import Inspection.Proofs.Children.Transparency

/-! Where the children of a value are a list, a window shows the part of the list that it covers. -/

namespace Inspection

namespace ChildAnswers

/-- The answers where the children are a list. -/
def ofList (values : List Value) : ChildAnswers := fun index => .ok values[index]?

variable {values : List Value}

/-- Behind the end of a list there is nothing. -/
theorem ofList_endForGood (values : List Value) : (ofList values).EndForGood := by
  -- A position without a child is past the end, and every later one lies further back.
  intro first later within nothing
  have past := List.getElem?_eq_none_iff.mp (Except.ok.inj nothing)
  exact congrArg Except.ok (List.getElem?_eq_none (Nat.le_trans past within))

/-- A run of children starts with the first of them. -/
theorem take_drop_eq_cons {index : Nat} {child : Value} (here : values[index]? = some child)
    (further : Nat) :
    (values.drop index).take (further + 1) = child :: (values.drop (index + 1)).take further := by
  -- The run begins at a position that is inside the list.
  obtain ⟨inside, same⟩ := List.getElem?_eq_some_iff.mp here
  rw [List.drop_eq_getElem_cons inside, List.take_succ_cons, same]

/-- Positions inside the list have its children for their outcomes. -/
theorem promised_ofList (count : Nat) {remaining index : Nat}
    (within : index + remaining ≤ values.length) :
    (List.range' index remaining).map ((ofList values).promised count) =
      ((values.drop index).take remaining).map .child := by
  -- The induction is on the number of positions, each of which answers one more child of the run.
  induction remaining generalizing index with
  | zero => rfl
  | succ further ih =>
    -- The first position has a child, and the others follow by induction.
    have inside : index < values.length := by omega
    have here : values[index]? = some values[index] := List.getElem?_eq_getElem inside
    rw [List.range'_succ, List.map_cons, ih (by omega), take_drop_eq_cons here, List.map_cons]
    simp only [promised, ofList, here]

/-- Positions have the children of the list for their outcomes until there are no more. -/
theorem untilEnd_ofList (remaining index : Nat) :
    (ofList values).untilEnd (List.range' index remaining) =
      ((values.drop index).take remaining).map .child := by
  -- The induction is on the number of positions, and it ends early only past the last child.
  induction remaining generalizing index with
  | zero => rfl
  | succ further ih =>
    rw [List.range'_succ, untilEnd]
    cases here : values[index]? with
    | none =>
      -- Past the end the rest of the list is empty.
      rw [List.drop_eq_nil_of_le (List.getElem?_eq_none_iff.mp here)]
      simp only [ofList, here]
      rfl
    | some child =>
      simp only [ofList, here, take_drop_eq_cons here, List.map_cons]
      exact congrArg _ (ih (index + 1))

end ChildAnswers

/-- How many children a window without a count shows; all of them where their number is known. -/
def ChildrenKind.limit? (maxNamed : Nat) : ChildrenKind → Option Nat
  | .indexed _ => none
  | .named | .undeclared => some maxNamed

/-- Without a memory a window shows its part of the list. -/
theorem ChildAnswers.uncached_ofList {values : List Value} {kind : ChildrenKind}
    (counted : ∀ count, kind = .indexed count → count = values.length) (window : Window)
    (maxNamed : Nat) :
    (ofList values).uncached kind window maxNamed =
      (window.shown (kind.limit? maxNamed) values).map .child := by
  cases kind with
  | indexed count =>
    -- The window is cut to the number of children before anything is served.
    have selected := window.select_eq_shown values
    simp only [Window.select, List.drop_take] at selected
    have within : (window.range values.length).1 +
        ((window.range values.length).2 - (window.range values.length).1) ≤ values.length := by
      simp only [Window.range]
      split <;> omega
    rw [counted count rfl, ChildrenKind.limit?, ← selected]
    exact promised_ofList _ within
  | named | undeclared =>
    -- The window has the limit for its count, unless it comes with its own.
    simp only [uncached]
    rw [Window.positions_of_unsized window maxNamed (fun count sized => by cases sized),
      untilEnd_ofList]
    simp only [ChildrenKind.limit?, Window.shown]
    cases window.count with
    | none => simp only [Option.none_or, Option.getD_none, List.drop_take]
    | some count => simp only [Option.or_some, Option.getD_some, List.drop_take]

namespace Handle

/-- The children that a formatter gives by position, whatever has been counted. -/
def Supplies (inquiry : Inquiry) (provider : Provider) (value : Value) (values : List Value) :
    Prop :=
  ∀ index ledger, (inquiry.child provider value (.position index) ledger).1 = .ok values[index]?

variable {inquiry : Inquiry} {provider : Provider} {value : Value} {values : List Value}
  {handle : Handle}

/-- What agrees with the children there are is what would be answered now. -/
theorem Agrees.recalls (agrees : handle.Agrees values) :
    handle.Recalls (ChildAnswers.ofList values) := by
  -- A remembered end lies past all children.
  constructor
  · exact fun index child found => congrArg Except.ok (agrees.children index child found)
  · exact fun bound ended => congrArg Except.ok (List.getElem?_eq_none (agrees.ended bound ended))

/-- What a handle remembers stays true while children are fetched and where they end. -/
theorem agrees_maintained (supplies : Supplies inquiry provider value values) :
    Maintained inquiry provider value fun handle _ => handle.Agrees values := by
  have fetched : ∀ index (handle : Handle) ledger, handle.Agrees values →
      (handle.fetch inquiry provider value index ledger).handle.Agrees values := by
    intro index handle ledger agrees
    -- A remembered child is not learned again; any other is learned as it is.
    cases found : handle.child? index with
    | some child =>
      rw [fetch_of_remembered inquiry provider value ledger found]
      exact agrees
    | none =>
      rw [fetch_of_unknown inquiry provider value ledger found]
      simp only [supplies index ledger]
      exact agrees.learn index
  constructor
  · exact fetched
  · -- An answer without a child marks a true end.
    intro index handle ledger agrees past
    have answer := (fetch_answers supplies agrees.recalls index ledger).1
    rw [answer] at past
    exact (fetched index handle ledger agrees).markEnd (Except.ok.inj past)

/-- A window is served with what there is in it, and the handle stays true. -/
theorem enumerate_supplied (supplies : Supplies inquiry provider value values)
    (target : handle.target = .value value) (agrees : handle.Agrees values) {kind : ChildrenKind}
    (counted : ∀ count, kind = .indexed count → count = values.length) (window : Window)
    (maxNamed : Nat) (ledger : Ledger) :
    (handle.enumerate kind provider window maxNamed inquiry ledger).answer =
        (window.shown (kind.limit? maxNamed) values).map .child ∧
      (handle.enumerate kind provider window maxNamed inquiry ledger).handle.Agrees values ∧
      (handle.enumerate kind provider window maxNamed inquiry ledger).handle.Honest := by
  -- Marking the kind changes nothing that is remembered, so serving starts from a true handle.
  obtain ⟨served, kept, recorded⟩ := enumerate_maintained (agrees_maintained supplies) target kind
    window maxNamed (agrees.markClassified kind)
  refine ⟨?_, ?_, ?_⟩
  · -- The answer is the one that would be given without a memory.
    rw [← ChildAnswers.uncached_ofList counted]
    exact enumerate_uncached target agrees.recalls (ChildAnswers.ofList_endForGood values) supplies
      kind window maxNamed ledger
  · -- The state that is recorded says nothing of the children.
    rw [recorded]
    exact kept.ofState _
  · -- It says no more than has been fetched.
    rw [recorded]
    exact honest_recordWindow served kind

end Handle

end Inspection
