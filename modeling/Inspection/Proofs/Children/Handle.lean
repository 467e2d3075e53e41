import Inspection.Children.Handle
import Inspection.Formatter.Error

/-! What a handle remembers of its children is what there is, so its counts can be trusted. -/

namespace Inspection.Handle

variable {handle : Handle} {values : List Value}

/-- Recording a kind changes nothing but the state, and that only once. -/
theorem markClassified_eq (handle : Handle) (kind : ChildrenKind) :
    handle.markClassified kind = handle ∨
      handle.markClassified kind = { handle with state := .sizeKnown kind } := by
  cases handle with
  | mk target state fetched children namedEnd =>
    -- Only an unresolved handle records the kind.
    cases state with
    | unresolved => exact .inr rfl
    | sizeKnown _ | enumerated _ _ => exact .inl rfl

/-- Of a target that is not unresolved the kind stays what it is. -/
theorem markClassified_of_resolved (resolved : handle.state ≠ .unresolved) (kind : ChildrenKind) :
    handle.markClassified kind = handle := by
  cases handle with
  | mk target state fetched children namedEnd =>
    cases state with
    | unresolved => exact absurd rfl resolved
    | sizeKnown _ | enumerated _ _ => rfl

/-- Once a kind has been recorded a target is not unresolved any more. -/
theorem markClassified_resolved (handle : Handle) (kind : ChildrenKind) :
    (handle.markClassified kind).state ≠ .unresolved := by
  cases handle with
  | mk target state fetched children namedEnd => cases state <;> exact nofun

/-- Recording a kind leaves the target alone. -/
@[simp] theorem markClassified_target (handle : Handle) (kind : ChildrenKind) :
    (handle.markClassified kind).target = handle.target := by
  -- Whichever way the state goes, the target is carried over.
  rcases markClassified_eq handle kind with same | same <;> rw [same]

/-- Recording a kind forgets no child. -/
@[simp] theorem markClassified_child? (handle : Handle) (kind : ChildrenKind) (index : Nat) :
    (handle.markClassified kind).child? index = handle.child? index := by
  -- Only the state can differ, and children are not looked up there.
  rcases markClassified_eq handle kind with same | same <;> rw [same]
  rfl

/-- Recording a kind moves no end. -/
@[simp] theorem markClassified_namedEnd (handle : Handle) (kind : ChildrenKind) :
    (handle.markClassified kind).namedEnd = handle.namedEnd := by
  -- Only the state can differ, and the end is not kept there.
  rcases markClassified_eq handle kind with same | same <;> rw [same]

/-- A child that is remembered hides what was remembered in its position, and nothing else. -/
theorem child?_remember (handle : Handle) (index other : Nat) (child : Value) :
    (handle.remember index child).child? other =
      if other = index then some child else handle.child? other := by
  -- The newest entry is looked at first.
  simp only [child?, remember, List.lookup_cons]
  by_cases same : other = index
  · rw [if_pos same, beq_iff_eq.mpr same]
  · rw [if_neg same, beq_false_of_ne same]

/-- What a handle keeps of one answer: only a child is remembered. -/
def learn (handle : Handle) (index : Nat) : Except FormatterError (Option Value) → Handle
  | .ok (some child) => handle.remember index child
  | .ok none | .error _ => handle

/-- Remembering an answer leaves the target alone. -/
@[simp] theorem learn_target (handle : Handle) (index : Nat)
    (answer : Except FormatterError (Option Value)) :
    (handle.learn index answer).target = handle.target := by
  -- Each answer leaves the handle or adds to its children.
  rcases answer with error | _ | child <;> rfl

/-- Remembering an answer leaves the end alone. -/
@[simp] theorem learn_namedEnd (handle : Handle) (index : Nat)
    (answer : Except FormatterError (Option Value)) :
    (handle.learn index answer).namedEnd = handle.namedEnd := by
  -- Each answer leaves the handle or adds to its children.
  rcases answer with error | _ | child <;> rfl

/-- What is unknown after an answer was unknown before it. -/
theorem child?_of_learn {index other : Nat} {answer : Except FormatterError (Option Value)}
    (unknown : (handle.learn index answer).child? other = none) : handle.child? other = none := by
  -- Only an answer with a child is learned, and it hides no other position.
  rcases answer with error | _ | child
  · exact unknown
  · exact unknown
  · rw [learn, child?_remember] at unknown
    split at unknown
    · cases unknown
    · exact unknown

/-- What a handle remembers is true of the children there are. -/
structure Agrees (handle : Handle) (values : List Value) : Prop where
  children : ∀ index child, handle.child? index = some child → values[index]? = some child
  fetched : ∀ index ∈ handle.fetched, index < values.length
  distinct : handle.fetched.Nodup
  ended : ∀ bound, handle.namedEnd = some bound → values.length ≤ bound

/-- A fresh handle remembers nothing. -/
theorem agrees_fresh (target : HandleTarget) (values : List Value) : (fresh target).Agrees values :=
  ⟨nofun, nofun, .nil, nofun⟩

/-- The state of a handle says nothing about single children. -/
theorem Agrees.ofState (agrees : handle.Agrees values) (state : HandleState) :
    Agrees { handle with state } values :=
  ⟨agrees.children, agrees.fetched, agrees.distinct, agrees.ended⟩

/-- Recording a kind keeps what is remembered true. -/
theorem Agrees.markClassified (agrees : handle.Agrees values) (kind : ChildrenKind) :
    (handle.markClassified kind).Agrees values := by
  -- Only the state can differ, and the state says nothing about children.
  rcases markClassified_eq handle kind with same | same
  · rw [same]
    exact agrees
  · rw [same]
    exact agrees.ofState _

/-- Remembering what there is in a position keeps what is remembered true. -/
theorem Agrees.learn (agrees : handle.Agrees values) (index : Nat) :
    (handle.learn index (.ok values[index]?)).Agrees values := by
  -- Where nothing is there nothing is learned; otherwise one child is put in front.
  cases here : values[index]? with
  | none => exact agrees
  | some child =>
    have inside : index < values.length := (List.getElem?_eq_some_iff.mp here).choose
    refine ⟨?_, ?_, ?_, agrees.ended⟩
    · intro other found remembered
      rw [Handle.learn, child?_remember] at remembered
      -- The new child hides older ones of its position.
      split at remembered
      · rename_i same
        cases remembered
        rw [same]
        exact here
      · exact agrees.children other found remembered
    · intro other member
      simp only [Handle.learn, remember] at member
      split at member
      · exact agrees.fetched other member
      · rcases List.mem_cons.mp member with new | old
        · rw [new]
          exact inside
        · exact agrees.fetched other old
    · simp only [Handle.learn, remember]
      split
      · exact agrees.distinct
      · rename_i absent
        exact List.nodup_cons.mpr ⟨absent, agrees.distinct⟩

/-- A position with nothing in it is past the end. -/
theorem Agrees.markEnd (agrees : handle.Agrees values) {index : Nat}
    (past : values[index]? = none) :
    Agrees { handle with namedEnd := some index } values := by
  -- The new bound is the position that was found empty.
  refine ⟨agrees.children, agrees.fetched, agrees.distinct, fun bound ended => ?_⟩
  cases ended
  exact List.getElem?_eq_none_iff.mp past

/-- No more children are fetched than there are. -/
theorem Agrees.fetchedBelow_le (agrees : handle.Agrees values) (bound : Nat) :
    handle.fetchedBelow bound ≤ values.length := by
  -- The fetched positions are distinct and all lie among those of the children.
  have within : handle.fetched.filter (· < bound) ⊆ List.range values.length := by
    intro index member
    exact List.mem_range.mpr (agrees.fetched index (List.mem_filter.mp member).1)
  -- Each fetched position is counted once.
  have counted := List.Nodup.length_le_of_subset (agrees.distinct.filter _) within
  rw [List.length_range] at counted
  exact counted

/-- A handle that claims to be complete is. -/
def Honest (handle : Handle) : Prop :=
  ∀ kind, handle.state = .enumerated kind .complete → handle.isComplete kind = true

/-- A fresh handle claims nothing. -/
theorem honest_fresh (target : HandleTarget) : (fresh target).Honest := nofun

/-- Recording a kind claims nothing new. -/
theorem Honest.markClassified (honest : handle.Honest) (kind : ChildrenKind) :
    (handle.markClassified kind).Honest := by
  -- A state with a known size claims no completeness.
  rcases markClassified_eq handle kind with same | same
  · rw [same]
    exact honest
  · rw [same]
    exact nofun

/-- The record of a window claims completeness only where it holds. -/
theorem honest_recordWindow (handle : Handle) (kind : ChildrenKind) :
    (handle.recordWindow kind).Honest := by
  -- The state that is written says complete only if the test for it has just held.
  intro other claimed
  simp only [recordWindow, HandleState.enumerated.injEq] at claimed
  obtain ⟨same, covered⟩ := claimed
  subst same
  split at covered
  · rename_i complete
    exact complete
  · cases covered

/-- A known count is the number of children. -/
theorem Agrees.knownNamedCount_eq (agrees : handle.Agrees values) (honest : handle.Honest)
    {count : Nat} (known : handle.knownNamedCount = some count) : count = values.length := by
  -- Only a complete handle without a size tells a count, and it is the end that was found.
  have counted : ∀ kind, handle.state = .enumerated kind .complete →
      (kind = .named ∨ kind = .undeclared) → handle.namedEnd = some count →
        count = values.length := by
    intro kind state unsized ended
    have complete := honest kind state
    have below := agrees.fetchedBelow_le count
    have beyond := agrees.ended count ended
    -- Everything below the end has been fetched, and there is nothing at the end.
    have covered : count ≤ handle.fetchedBelow count := by
      rcases unsized with named | undeclared
      · simpa [named, isComplete, ended] using complete
      · simpa [undeclared, isComplete, ended] using complete
    omega
  simp only [knownNamedCount] at known
  split at known
  · rename_i state
    exact counted _ state (.inl rfl) known
  · rename_i state
    exact counted _ state (.inr rfl) known
  all_goals cases known

end Inspection.Handle
