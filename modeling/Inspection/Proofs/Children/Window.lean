import Inspection.Children.Kind
import Inspection.Children.Window

/-! A window shows a run of elements from its start. -/

namespace Inspection

/-- The elements that a window shows, where a limit stands for an absent count. -/
def Window.shown (window : Window) (limit : Option Nat) (elements : List α) : List α :=
  match window.count.or limit with
  | some count => (elements.take (addPosition window.start count)).drop window.start
  | none => elements.drop window.start

/-- Where every element has a position, a window shows a run of its own count from its start. -/
theorem Window.shown_eq_take {elements : List α} (fits : elements.length ≤ maxPosition)
    (window : Window) {limit : Option Nat} {count : Nat}
    (counted : window.count.or limit = some count) :
    window.shown limit elements = (elements.drop window.start).take count := by
  simp only [shown, counted, addPosition, List.drop_take]
  -- The sum stops at the largest position only where there are no elements any more.
  rcases Nat.le_total (window.start + count) maxPosition with small | large
  · rw [Nat.min_eq_left small, Nat.add_sub_cancel_left]
  · -- Past the words both take all that is left.
    rw [Nat.min_eq_right large, List.take_of_length_le, List.take_of_length_le]
    · rw [List.length_drop]
      omega
    · rw [List.length_drop]
      omega

/-- Selecting from a list shows what the window shows without a limit. -/
theorem Window.select_eq_shown (window : Window) (elements : List α) :
    window.select elements = window.shown none elements := by
  -- A start beyond the end leaves nothing, as the end itself does.
  have started : ∀ shorter : List α, shorter.length ≤ elements.length →
      shorter.drop (min window.start elements.length) = shorter.drop window.start := by
    intro shorter fits
    rcases Nat.le_total window.start elements.length with inside | beyond
    · rw [Nat.min_eq_left inside]
    · rw [Nat.min_eq_right beyond, List.drop_eq_nil_of_le fits,
        List.drop_eq_nil_of_le (Nat.le_trans fits beyond)]
  simp only [select, range, shown, Option.or_none]
  cases window.count with
  | none => rw [List.take_length, started elements (Nat.le_refl _)]
  | some count =>
    simp only
    rw [started _ (List.length_take_le' _ _), ← List.take_eq_take_min]

/-- What a window shows of a list is the same before and after a change to each element. -/
theorem Window.shown_map {β : Type} (window : Window) (limit : Option Nat) (change : α → β)
    (elements : List α) :
    window.shown limit (elements.map change) = (window.shown limit elements).map change := by
  -- Taking and dropping go by position, not by element.
  simp only [shown]
  split
  · rw [← List.map_take, List.map_drop]
  · rw [List.map_drop]

/-- What a window shows is taken from the list. -/
theorem Window.mem_of_mem_shown {window : Window} {limit : Option Nat} {elements : List α}
    {element : α} (member : element ∈ window.shown limit elements) : element ∈ elements := by
  -- Nothing is shown that was not there to take.
  simp only [shown] at member
  split at member
  · exact List.mem_of_mem_take (List.mem_of_mem_drop member)
  · exact List.mem_of_mem_drop member

/--
The positions that a window covers among children of a kind, in ascending order.

A known number cuts the window; without one a limit stands for an absent count.
-/
def Window.positions (window : Window) (kind : ChildrenKind) (maxNamed : Nat) : List Nat :=
  match kind with
  | .indexed count =>
    List.range' (window.range count).1 ((window.range count).2 - (window.range count).1)
  | .named | .undeclared =>
    -- The largest machine word is no position.
    (List.range' window.start (window.count.getD maxNamed)).filter (· < maxPosition)

/-- The positions that a window covers are ascending, so no position is covered twice. -/
theorem Window.positions_ascending (window : Window) (kind : ChildrenKind) (maxNamed : Nat) :
    (window.positions kind maxNamed).Pairwise (· < ·) := by
  -- Both are runs of numbers, the second with its end cut off.
  cases kind with
  | indexed count => exact List.pairwise_lt_range'
  | named | undeclared => exact List.Pairwise.filter _ List.pairwise_lt_range'

/-- With a known number of children a window covers only positions below it. -/
theorem Window.lt_of_mem_positions {window : Window} {count maxNamed index : Nat}
    (member : index ∈ window.positions (.indexed count) maxNamed) : index < count := by
  -- The end of the window has been cut to the number.
  have cut : (window.range count).2 ≤ count := by
    simp only [range]
    split
    · exact Nat.min_le_right _ _
    · exact Nat.le_refl count
  obtain ⟨started, inside⟩ := List.mem_range'_1.mp member
  omega

/-- Of a run of numbers, those below a bound are a shorter run. -/
theorem filter_lt_range' (start length bound : Nat) :
    (List.range' start length).filter (· < bound) =
      List.range' start (min (start + length) bound - start) := by
  -- The induction is on the length; from the bound on nothing is kept.
  induction length generalizing start with
  | zero =>
    have empty : min (start + 0) bound - start = 0 := by omega
    rw [empty]
    rfl
  | succ further ih =>
    rw [List.range'_succ, List.filter_cons, ih (start + 1)]
    by_cases inside : start < bound
    · have longer : min (start + (further + 1)) bound - start =
          (min (start + 1 + further) bound - (start + 1)) + 1 := by omega
      rw [if_pos (decide_eq_true inside), longer, List.range'_succ]
    · -- At the bound both runs have come to their ends.
      have none : min (start + 1 + further) bound - (start + 1) = 0 := by omega
      have noneHere : min (start + (further + 1)) bound - start = 0 := by omega
      rw [if_neg (by simpa using inside), none, noneHere]
      rfl

/-- Where the number of children is not known, a window covers a run that stops with the words. -/
theorem Window.positions_of_unsized (window : Window) (maxNamed : Nat) {kind : ChildrenKind}
    (unsized : ∀ count, kind ≠ .indexed count) :
    window.positions kind maxNamed = List.range' window.start
      (addPosition window.start (window.count.getD maxNamed) - window.start) := by
  -- The positions are those of the window that are words.
  cases kind with
  | indexed count => exact absurd rfl (unsized count)
  | named | undeclared => exact filter_lt_range' _ _ _

/-- A window of one position covers no other. -/
theorem Window.eq_of_mem_single {index other maxNamed : Nat} {kind : ChildrenKind}
    (member : other ∈ (⟨index, some 1⟩ : Window).positions kind maxNamed) : other = index := by
  -- The run has one number only.
  cases kind with
  | indexed count =>
    have inside := lt_of_mem_positions member
    obtain ⟨started, ended⟩ := List.mem_range'_1.mp member
    simp only [range, addPosition] at started ended
    omega
  | named | undeclared =>
    obtain ⟨covered, _⟩ := List.mem_filter.mp member
    obtain ⟨started, ended⟩ := List.mem_range'_1.mp covered
    exact Nat.le_antisymm (Nat.le_of_lt_succ ended) started

/-- A window of one position covers it, unless a known number of children cuts it off. -/
theorem Window.positions_single {index : Nat} (below : index < maxPosition) {kind : ChildrenKind}
    (within : ∀ count, kind = .indexed count → index < count) (maxNamed : Nat) :
    (⟨index, some 1⟩ : Window).positions kind maxNamed = [index] := by
  -- The one position is cut off neither by the number nor by the words.
  cases kind with
  | indexed count =>
    have inside := within count rfl
    have cut : range ⟨index, some 1⟩ count = (index, index + 1) := by
      simp only [range, addPosition, Prod.mk.injEq]
      omega
    simp only [positions, cut, Nat.add_sub_cancel_left]
    rfl
  | named | undeclared =>
    show [index].filter (· < maxPosition) = [index]
    rw [List.filter_cons, decide_eq_true below]
    rfl

end Inspection
