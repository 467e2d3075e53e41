import Inspection.Proofs.Children.Coverage

/-! A count that a handle tells is the number of children there are, each of which can be had. -/

namespace Inspection

namespace ChildAnswers

/-- There are exactly so many children: one in every position before, and none in that one. -/
def Exactly (answers : ChildAnswers) (count : Nat) : Prop :=
  (∀ index < count, ∃ child, answers index = .ok (some child)) ∧ answers count = .ok none

/-- Where there are exactly so many children and nothing behind their end, they are a list. -/
theorem Exactly.eq_ofList {answers : ChildAnswers} {count : Nat} (exactly : answers.Exactly count)
    (ends : answers.EndForGood) :
    ∃ children : List Value, children.length = count ∧ answers = ofList children := by
  -- The children are those that are given below the count, each for its position.
  obtain ⟨below, past⟩ := exactly
  choose child found using below
  refine ⟨List.ofFn fun index : Fin count => child index index.isLt, List.length_ofFn, ?_⟩
  funext index
  rw [ofList, List.getElem?_ofFn]
  split
  · rename_i before
    exact found index before
  · -- From the count on nothing is given, since the children end for good.
    rename_i behind
    exact ends count index (Nat.le_of_not_lt behind) past

end ChildAnswers

namespace Handle

variable {handle : Handle} {answers : ChildAnswers}

/-- What a handle remembers can be relied on: children, end, and whether all have been fetched. -/
structure Trusted (handle : Handle) (answers : ChildAnswers) : Prop where
  recalls : handle.Recalls answers
  tidy : handle.Tidy
  honest : handle.Honest

/-- A fresh handle claims nothing. -/
theorem trusted_fresh (target : HandleTarget) (answers : ChildAnswers) :
    (fresh target).Trusted answers :=
  ⟨recalls_fresh target answers, tidy_fresh target, honest_fresh target⟩

/-- Recording a kind claims nothing new. -/
theorem Trusted.markClassified (trusted : handle.Trusted answers) (kind : ChildrenKind) :
    (handle.markClassified kind).Trusted answers :=
  ⟨trusted.recalls.markClassified kind, trusted.tidy.markClassified kind,
    trusted.honest.markClassified kind⟩

/-- A page leaves a handle that can be relied on. -/
theorem Trusted.enumerate {inquiry : Inquiry} {provider : Provider} {value : Value}
    (trusted : handle.Trusted answers) (target : handle.target = .value value)
    (answered : inquiry.Answers provider value answers) (kind : ChildrenKind) (window : Window)
    (maxNamed : Nat) (ledger : Ledger) :
    (handle.enumerate kind provider window maxNamed inquiry ledger).handle.Trusted answers := by
  -- Each of the three is kept by every fetch, and a page is a run of fetches.
  constructor
  · obtain ⟨served, kept, recorded⟩ := enumerate_maintained (recalls_maintained answered) target
      kind window maxNamed (trusted.recalls.markClassified kind)
    rw [recorded]
    exact kept.ofState _
  · obtain ⟨served, kept, recorded⟩ := enumerate_maintained
      (tidy_maintained inquiry provider value) target kind window maxNamed
      (trusted.tidy.markClassified kind)
    rw [recorded]
    exact ⟨kept.distinct, kept.keys⟩
  · obtain ⟨served, kept, recorded⟩ := enumerate_maintained
      (tidy_maintained inquiry provider value) target kind window maxNamed
      (trusted.tidy.markClassified kind)
    rw [recorded]
    exact honest_recordWindow served kind

/-- A count that is told is the number of children there are. -/
theorem Trusted.exactly (trusted : handle.Trusted answers) {count : Nat}
    (told : handle.knownNamedCount = some count) : answers.Exactly count := by
  -- Only a complete handle without a size tells a count, and it is the end that it has found.
  obtain ⟨kind, complete, unsized⟩ : ∃ kind, handle.state = .enumerated kind .complete ∧
      ∀ size, kind ≠ .indexed size := by
    unfold knownNamedCount at told
    split at told
    · next state => exact ⟨_, state, nofun⟩
    · next state => exact ⟨_, state, nofun⟩
    -- Every other state tells no count.
    all_goals cases told
  -- What a complete handle tells is where it found the end, and all before it is remembered.
  have ended : handle.namedEnd = some count :=
    (knownNamedCount_of_complete unsized complete).symm.trans told
  obtain ⟨bound, known, remembered⟩ :=
    (trusted.tidy.isComplete_iff kind).mp (trusted.honest kind complete)
  rw [bound?_of_unsized unsized, ended] at known
  cases known
  refine ⟨fun index before => ?_, trusted.recalls.ended count ended⟩
  obtain ⟨child, found⟩ := remembered index before
  exact ⟨child, trusted.recalls.children index child found⟩

end Handle

end Inspection
