import Inspection.Proofs.Session.Positions

/-! Which of the children that are evaluated by name are listed when their value is expanded. -/

namespace Inspection

namespace Session

/-- Expanding a reference in a window yields a child. -/
def Lists (session : Session) (reference : Int64) (window : Window) (child : Value) : Prop :=
  ∃ slot value, session.target? reference = some (slot, .value value) ∧
    child ∈ childrenOf (session.serve slot value window).1

variable {session : Session} {value child : Value} {index frame : Nat} {path : Path}
  {shown : Descriptor}

/-- Nothing is listed for the empty reference. -/
theorem Lists.ne_zero {reference : Int64} {window : Window}
    (lists : session.Lists reference window child) : reference ≠ 0 := by
  -- The empty reference is decoded to no slot.
  rintro rfl
  obtain ⟨slot, value, leads, _⟩ := lists
  cases leads

/-- What any window of a located value lists is answered for the position where it is recorded. -/
theorem Located.follow_of_lists (located : session.Located frame path value shown)
    (recorded : session.replay.child value (.position index) = .ok (some child))
    {window : Window} (lists : session.Lists shown.reference window child) :
    (session.follow value (.position index)).1 = .ok (some child) := by
  -- A value that has children to list has been granted a handle that serves it.
  obtain ⟨node, has⟩ := located.reports
  obtain ⟨slot, handle, leads, found, target⟩ :=
    located.attested.leads ⟨node, has⟩ located.granted lists.ne_zero
  obtain ⟨_, _, alsoLeads, member⟩ := lists
  cases leads.symm.trans alsoLeads
  -- What the handle serves is what the formatter answers at some place.
  rw [located.attested.serve_uncached found target] at member
  obtain ⟨place, _, given⟩ := ChildAnswers.mem_childrenOf_uncached member
  rw [located.answers] at given
  -- A child has one identity, and with it one place.
  have atPlace := Replay.child_recorded has (located.classified.2.child_recorded given)
  cases atPlace.2.symm.trans (Replay.child_recorded has recorded).2
  exact given

/-- A recorded child of a located value is listed exactly if a fixed size covers its position. -/
theorem Located.lists_iff (located : session.Located frame path value shown)
    (addressable : session.replay.Addressable)
    (recorded : session.replay.child value (.position index) = .ok (some child)) :
    (∃ start count, session.Lists shown.reference ⟨start, some count⟩ child) ↔
      shown.reference ≠ 0 ∧ (childProvider (session.classify value).1).Covers index := by
  have due := located.classified.2
  constructor
  · -- Whatever is listed has been given by the formatter, which a fixed size restrains.
    rintro ⟨start, count, lists⟩
    exact ⟨lists.ne_zero, (due.given_iff recorded).mp (located.follow_of_lists recorded lists)⟩
  · rintro ⟨nonzero, covers⟩
    -- A window of one child at the position shows it.
    have offers : session.Offers frame path value shown (.position index) child
      (session.describe child).1 := ⟨located, (due.given_iff recorded).mpr covers, rfl⟩
    obtain ⟨slot, handle, leads, _, _, served⟩ := offers.serve_single addressable nonzero
    refine ⟨index, 1, slot, value, leads, ?_⟩
    rw [served]
    exact List.mem_singleton_self child

namespace CutPair

/-- The value of the pair. -/
def pair : Value := ⟨.slot 0 0, "p", ⟨"Pair", .record ["first", "second"]⟩, "\x7b..\x7d"⟩

/-- The value of a member. -/
def member (index : Nat) (name summary : String) : Value :=
  ⟨.child (.position index) (.slot 0 0), name, ⟨"int", .scalar⟩, summary⟩

/-- The path of the pair leads to it. -/
theorem reach_pair : (there.reach 0 ⟨"p", []⟩).1 = .ok pair := rfl

/-- The pair is located where it has been evaluated. -/
theorem located : there.Located 0 ⟨"p", []⟩ pair descriptor := by
  -- The located value of a later evaluation is the value that the path reaches.
  have attended : (start replay registry ⟨.unbounded, 100⟩).Attended [] := trivial
  obtain ⟨path, value, spells, located, _⟩ :=
    located_after replay declared addressable ⟨.unbounded, 100⟩ attended trimmed evaluates
  cases parsed.symm.trans (Path.parse?_eq_some_iff.mpr spells)
  obtain ⟨ledger, reached⟩ := located.reach
  cases (congrArg Prod.fst reached).symm.trans reach_pair
  exact located

/-- The formatter of the pair covers its first position alone. -/
theorem covers_iff {index : Nat} :
    (childProvider (there.classify pair).1).Covers index ↔ index < 1 := by
  -- The declaration fixes the size to one.
  have supplied : childProvider (there.classify pair).1 = ⟨.user "cut", declaration.formatter⟩ :=
    rfl
  rw [supplied, Provider.covers_declared_iff]
  constructor
  · intro bounded
    exact bounded 1 rfl
  · intro below size fixed
    cases fixed
    exact below

end CutPair

/--
A child that is evaluated by its name is listed exactly if a fixed size covers its position.

A fixed size bounds the positions alone: past it a member is still answered by its name, though no
window shows it. Within it the member is the child in its position and is shown by the same
descriptor.
-/
theorem member_listed_iff (replay : Replay) {registry : Registry}
    (declared : registry.All Formatter.IsDeclared) (addressable : replay.Addressable)
    (options : SessionOptions) {requests : List (Request Int64)}
    (attended : (start replay registry options).Attended requests) {frame : Nat}
    {expression : String} (trimmed : Text.trim expression = expression) {shown : Descriptor}
    {there : Session}
    (evaluates : ((start replay registry options).after requests).evaluate frame expression =
      (.ok (.value shown), there))
    {name : String} (written : IsName name.toList) {named : Descriptor}
    (evaluated : (there.evaluate frame (expression ++ "." ++ name)).1 = .ok (.value named)) :
    ∃ path value child index, Path.parse? expression = some path ∧
      (there.reach frame path).1 = .ok value ∧
      (there.reach frame ⟨path.root, path.keys ++ [.member name]⟩).1 = .ok child ∧
      child.name = name ∧ (there.describe child).1 = named ∧
      there.replay.child value (.position index) = .ok (some child) ∧
      ((∃ start count, there.Lists shown.reference ⟨start, some count⟩ child) ↔
        shown.reference ≠ 0 ∧ (childProvider (there.classify value).1).Covers index) ∧
      (shown.reference ≠ 0 → (childProvider (there.classify value).1).Covers index →
        (there.listVariables shown.reference ⟨index, some 1⟩).1 = ⟨[named], none⟩) := by
  -- The evaluation locates the value in the session that it leaves.
  obtain ⟨path, value, spelled, located, thereAddressable⟩ :=
    located_after replay declared addressable options attended trimmed evaluates
  have longer : expression ++ "." ++ name = expression ++ (ChildKey.member name).segment :=
    String.append_assoc
  have writable : (ChildKey.member name).IsWritable := written
  rw [longer] at evaluated
  obtain ⟨child, _, offers, same⟩ :=
    located.offers_of_evaluate trimmed spelled writable evaluated
  cases same
  -- A child that is recorded by its name has a position too.
  obtain ⟨called, index, recorded⟩ := Replay.child_of_member offers.recorded
  obtain ⟨ledger, reached⟩ := located.reach
  refine ⟨path, value, child, index, Path.parse?_eq_some_iff.mpr spelled, congrArg Prod.fst reached,
    offers.reach, called, offers.named, recorded, located.lists_iff thereAddressable recorded,
    fun nonzero covers => ?_⟩
  -- Where the size covers the position, the child is offered there as well.
  have positioned : there.Offers frame path value shown (.position index) child named :=
    ⟨located, (located.classified.2.given_iff recorded).mpr covers, offers.named⟩
  exact (positioned.listVariables thereAddressable nonzero).1

/-- The first member of a pair that is cut to it is listed. -/
theorem member_listed_of_cut :
    CutPair.registry.All Formatter.IsDeclared ∧ CutPair.replay.Addressable ∧
      (start CutPair.replay CutPair.registry ⟨.unbounded, 100⟩).Attended [] ∧
      Text.trim "p" = "p" ∧
      ((start CutPair.replay CutPair.registry ⟨.unbounded, 100⟩).after []).evaluate 0 "p" =
        (.ok (.value CutPair.descriptor), CutPair.there) ∧
      IsName "first".toList ∧
      (CutPair.there.evaluate 0 ("p" ++ "." ++ "first")).1 =
        .ok (.value ⟨"first", "1", "int", 0, none, none⟩) ∧
      ∃ start count, CutPair.there.Lists CutPair.descriptor.reference ⟨start, some count⟩
        (CutPair.member 0 "first" "1") := by
  -- The formatter answers the member by its name, and so does the evaluation.
  have attended : (start CutPair.replay CutPair.registry ⟨.unbounded, 100⟩).Attended [] := trivial
  have written : IsName "first".toList := by decide
  have offers : CutPair.there.Offers 0 ⟨"p", []⟩ CutPair.pair CutPair.descriptor (.member "first")
    (CutPair.member 0 "first" "1") ⟨"first", "1", "int", 0, none, none⟩ :=
    ⟨CutPair.located, rfl, by decide +kernel⟩
  have evaluated := (offers.evaluate CutPair.trimmed CutPair.spelled written).1
  obtain ⟨path, value, child, index, parsed, reached, led, _, _, recorded, listed, _⟩ :=
    member_listed_iff CutPair.replay CutPair.declared CutPair.addressable ⟨.unbounded, 100⟩ attended
      CutPair.trimmed CutPair.evaluates written evaluated
  -- The path, the value and the child of the theorem are those of the pair.
  cases CutPair.parsed.symm.trans parsed
  cases CutPair.reach_pair.symm.trans reached
  cases offers.reach.symm.trans led
  -- The member has the identity of the first position.
  obtain ⟨node, has⟩ := CutPair.located.reports
  cases (Replay.child_recorded has recorded).2
  exact ⟨CutPair.declared, CutPair.addressable, attended, CutPair.trimmed, CutPair.evaluates,
    written, evaluated, listed.mpr ⟨by decide, CutPair.covers_iff.mpr Nat.one_pos⟩⟩

/-- The second member is still evaluated by its name, though no window lists it. -/
theorem member_hidden_of_cut :
    (CutPair.there.evaluate 0 "p.second").1 =
        .ok (.value ⟨"second", "2", "int", 0, none, none⟩) ∧
      (CutPair.there.reach 0 ⟨"p", [.member "second"]⟩).1 = .ok (CutPair.member 1 "second" "2") ∧
      ¬ ∃ start count, CutPair.there.Lists CutPair.descriptor.reference ⟨start, some count⟩
        (CutPair.member 1 "second" "2") := by
  have offers : CutPair.there.Offers 0 ⟨"p", []⟩ CutPair.pair CutPair.descriptor (.member "second")
    (CutPair.member 1 "second" "2") ⟨"second", "2", "int", 0, none, none⟩ :=
    ⟨CutPair.located, rfl, by decide +kernel⟩
  have written : IsName "second".toList := by decide
  have recorded : CutPair.there.replay.child CutPair.pair (.position 1) =
    .ok (some (CutPair.member 1 "second" "2")) := rfl
  refine ⟨(offers.evaluate CutPair.trimmed CutPair.spelled written).1, offers.reach, ?_⟩
  -- Were it listed, the size would cover the second position.
  rw [CutPair.located.lists_iff CutPair.addressable recorded]
  rintro ⟨_, covers⟩
  exact absurd (CutPair.covers_iff.mp covers) (by decide)

end Session

end Inspection
