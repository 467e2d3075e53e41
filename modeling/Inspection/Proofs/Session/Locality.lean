import Inspection.Proofs.Session.Beside

/-! Where one child cannot be had, its own place in a listing shows it and no other does. -/

namespace Inspection

variable {id : ValueId} {index : Nat}

namespace Session

variable {left right : Session} {apart : List ValueId}

/-- Two listings of some positions that are alike but where the second misses a child. -/
inductive ListedBeside (index : Nat) (error : FormatterError) :
    List Nat → List Descriptor → List Descriptor → Prop where
  | nil : ListedBeside index error [] [] []
  | lost {positions : List Nat} {lefts rights : List Descriptor} (shown : Descriptor)
      (rest : ListedBeside index error positions lefts rights) :
      ListedBeside index error (index :: positions) (shown :: lefts)
        (.placeholder index error :: rights)
  | alike {position : Nat} {positions : List Nat} {shown other : Descriptor}
      {lefts rights : List Descriptor} (different : position ≠ index)
      (resembles : shown.Resembles other)
      (rest : ListedBeside index error positions lefts rights) :
      ListedBeside index error (position :: positions) (shown :: lefts) (other :: rights)

namespace ListedBeside

variable {error : FormatterError} {positions : List Nat} {lefts rights : List Descriptor}

/-- Both listings show every position. -/
theorem length (listed : ListedBeside index error positions lefts rights) :
    lefts.length = positions.length ∧ rights.length = positions.length := by
  -- Each position puts one descriptor in front of either listing.
  induction listed with
  | nil => exact ⟨rfl, rfl⟩
  | lost _ _ ih | alike _ _ _ ih => exact ⟨congrArg (· + 1) ih.1, congrArg (· + 1) ih.2⟩

/-- What the two listings show in one place. -/
theorem shown (listed : ListedBeside index error positions lefts rights) {place position : Nat}
    (there : positions[place]? = some position) :
    ∃ shown other, lefts[place]? = some shown ∧ rights[place]? = some other ∧
      if position = index then other = .placeholder index error else shown.Resembles other := by
  -- The induction is on the listings, and the place counts down with them.
  induction listed generalizing place with
  | nil => cases there
  | lost shown rest ih =>
    cases place with
    | zero =>
      -- The first place is that of the missing child.
      cases there
      exact ⟨_, _, rfl, rfl, by rw [if_pos rfl]⟩
    | succ further => exact ih there
  | alike different resembles rest ih =>
    cases place with
    | zero =>
      -- Any other position shows the same in both.
      cases there
      exact ⟨_, _, rfl, rfl, by rwa [if_neg different]⟩
    | succ further => exact ih there

end ListedBeside

/-- Sessions side by side present the same outcomes, but for a missing child, alike. -/
theorem Beside.present (beside : Beside id index apart left right) {answers others : ChildAnswers}
    {child : Value} {error : FormatterError} (fails : answers.FailsAt index child error others)
    (kind : ChildrenKind) (positions : List Nat)
    (distinct : ((childrenOf (positions.map (answers.outcome kind))).map Value.id).Nodup)
    (away : ∀ other ∈ (childrenOf (positions.map (answers.outcome kind))).map Value.id,
      other ∉ apart)
    (room : (left.present (positions.map (answers.outcome kind))).2.arena.size ≤ Arena.capacity)
    (otherRoom : (right.present (positions.map (others.outcome kind))).2.arena.size ≤
      Arena.capacity) :
    ListedBeside index error positions
      (left.present (positions.map (answers.outcome kind))).1
      (right.present (positions.map (others.outcome kind))).1 := by
  -- The induction is on the positions, from the sessions that the first one leaves.
  induction positions generalizing left right apart with
  | nil => exact .nil
  | cons position rest ih =>
    simp only [List.map_cons] at distinct away room otherRoom ⊢
    by_cases same : position = index
    · -- Only the first session describes the child, whose identity comes up nowhere else.
      subst same
      rw [fails.outcome_given] at distinct away room ⊢
      rw [fails.outcome_lost] at otherRoom ⊢
      obtain ⟨alone, later⟩ := List.nodup_cons.mp distinct
      refine .lost _ (ih (beside.describe_left child) later (fun other member => ?_) room otherRoom)
      intro known
      rcases List.mem_cons.mp known with here | earlier
      · exact alone (here ▸ member)
      · exact away other (List.mem_cons_of_mem _ member) earlier
    · rw [fails.outcome_elsewhere kind same] at otherRoom ⊢
      cases found : answers.outcome kind position with
      | child shown =>
        rw [found] at distinct away room otherRoom
        have shared := away shown.id List.mem_cons_self
        have next := beside.describe shared
        -- What the description has placed keeps its place while the rest is presented.
        obtain ⟨formed, grows⟩ := present_grows next.formed (rest.map (answers.outcome kind))
        obtain ⟨otherFormed, otherGrows⟩ :=
          present_grows next.otherFormed (rest.map (others.outcome kind))
        refine .alike same (beside.resembles shared ?_ ?_) (ih next (List.nodup_cons.mp distinct).2
          (fun other member => away other (List.mem_cons_of_mem _ member)) room otherRoom)
        · -- So the first reference is not empty, and neither is the other.
          exact fun slot => place_lt_capacity grows formed room
        · exact fun slot => place_lt_capacity otherGrows otherFormed otherRoom
      | failed failed reason =>
        -- Both show the same stand-in.
        rw [found] at distinct away room otherRoom
        exact .alike same (.refl _) (ih beside distinct away room otherRoom)

/-- A missing child is one more failure, wherever it is listed. -/
theorem countP_isFailure_of_failsAt {answers others : ChildAnswers} {child : Value}
    {error : FormatterError} (fails : answers.FailsAt index child error others)
    (kind : ChildrenKind) {positions : List Nat} (distinct : positions.Nodup) :
    (positions.map (others.outcome kind)).countP isFailure =
      (positions.map (answers.outcome kind)).countP isFailure +
        if index ∈ positions then 1 else 0 := by
  -- The induction is on the positions, among which the missing child comes at most once.
  induction positions with
  | nil => rfl
  | cons position rest ih =>
    obtain ⟨alone, later⟩ := List.nodup_cons.mp distinct
    simp only [List.map_cons, List.countP_cons, ih later]
    by_cases same : position = index
    · -- Here the outcomes differ, and no later position is this one.
      subst same
      simp [fails.outcome_given, fails.outcome_lost, isFailure, alone]
    · -- Here the outcomes are the same, so the difference lies in the rest.
      simp only [fails.outcome_elsewhere kind same, List.mem_cons, Ne.symm same, false_or]
      omega

/-- The note counts a missing child exactly where it is listed. -/
theorem failureNote_of_failsAt {answers others : ChildAnswers} {child : Value}
    {error : FormatterError} (fails : answers.FailsAt index child error others)
    (kind : ChildrenKind) {positions : List Nat} (distinct : positions.Nodup) (value : Value) :
    failureNote value (positions.map (others.outcome kind)) =
      if index ∈ positions then
        some (toString ((positions.map (answers.outcome kind)).countP isFailure + 1) ++
          " requested children of '" ++ value.name ++ "' failed")
      else failureNote value (positions.map (answers.outcome kind)) := by
  have counted := countP_isFailure_of_failsAt fails kind distinct
  simp only [failureNote, counted]
  split
  · -- With the missing child there is a failure to be noted.
    rw [if_pos (Nat.succ_pos _)]
  · -- Without it the count is what it was.
    rfl

/-- Where a reference leads to a value, its children are listed. -/
theorem listVariables_of_value {session : Session} {reference : Int64} {slot : Nat}
    {handle : Handle} {value : Value} (resolved : session.arena.resolve reference = some slot)
    (found : session.arena.handle? slot = some handle) (target : handle.target = .value value)
    (window : Window) :
    session.listVariables reference window = session.expand slot value window :=
  -- The handle that is resolved to has the value for its target.
  listVariables_of_target (target ▸ target_of_resolve resolved found) window

/-- Whatever was asked of a session, its look-ups are right. -/
theorem after_wellFormed (replay : Replay) (registry : Registry) (options : SessionOptions)
    (requests : List (Request Int64)) :
    ((start replay registry options).after requests).arena.WellFormed := by
  -- A visit that follows the session is sound.
  have follows := (Visit.start replay registry options).askAll_session requests
  have sound := (Visit.sound_askAll replay registry options requests).formed
  rw [follows] at sound
  exact sound

/-- Two sessions in one state stand side by side. -/
theorem DiffersAt.beside (differs : left.DiffersAt id index right) (pure : left.Pure)
    (formed : left.arena.WellFormed) : Beside id index [] left right := by
  -- Nothing but the formatters can differ.
  have arenas : right.arena = left.arena := by rw [differs.same]
  refine ⟨?_, differs.registry, fun other _ => differs.known other, fun _ _ => by rw [arenas], pure,
    formed, by rwa [arenas]⟩
  rw [differs.same]
  rfl

section gaps

/-- A value with children of its formatter's own making. -/
def bag : Value := ⟨.given 0, "v", ⟨"Bag", .scalar⟩, "[..]"⟩

/-- One of these children. -/
def bagElement (number : Nat) : Value := ⟨.given number, "e", ⟨"int", .scalar⟩, "0"⟩

/-- A formatter that fails at the first position and ends at the second, with children behind. -/
def gappedBag (lost : Bool) : Formatter :=
  ⟨fun _ => .byName, fun _ _ _ => .returns none, fun _ _ _ => .returns (.error (.size "unsized")),
    fun _ _ value key =>
      if lost ∧ value.id = bag.id ∧ key = .position 2 then .returns (.error (.child "[2]" "lost"))
      else match key with
        | .position 0 | .position 4 => .returns (.error (.child key.text "broken"))
        | .position 2 => .returns (.ok (some (bagElement 2)))
        | .position 3 => .returns (.ok (some (bagElement 3)))
        | _ => .returns (.ok none)⟩

/-- A session in which the bag has been shown. -/
def gapped (lost : Bool) : Session :=
  (start ⟨[], 0⟩ ⟨[⟨"bag", .exact "Bag", gappedBag lost⟩]⟩ ⟨.unbounded, 100⟩).after
    [.describe bag]

/-- Only the one child is lost. -/
theorem gapped_differs : (gapped false).DiffersAt bag.id 2 (gapped true) := by
  -- Asked for anything else, the two formatters say the same.
  have formatter : (gappedBag false).DiffersAt bag.id 2 (gappedBag true) := by
    refine ⟨rfl, rfl, rfl, fun calls replay value key elsewhere => ?_⟩
    simp only [gappedBag, elsewhere, and_false, if_false, Bool.false_eq_true, false_and]
  refine ⟨rfl, .cons ⟨rfl, rfl, formatter⟩ .nil, fun other => ?_⟩
  -- Each knows the bag and nothing else.
  show Option.Rel _ (List.lookup other [_]) (List.lookup other [_])
  rw [List.lookup_cons, List.lookup_cons]
  split
  · exact .some ⟨rfl, rfl, formatter⟩
  · exact .none

/-- The formatter of the bag ignores earlier calls. -/
theorem gapped_pure (lost : Bool) : (gapped lost).Pure := by
  -- Neither function of the formatter looks at the calls.
  have formatter : (gappedBag lost).Pure :=
    ⟨fun _ _ _ _ => rfl, fun _ _ _ _ => rfl, fun _ _ _ _ _ => rfl⟩
  constructor
  · intro entry member
    -- The bag has the only entry.
    cases List.mem_singleton.mp member
    exact formatter
  · intro id classification found
    -- It has also been classified by that entry.
    have known : (gapped lost).known = [(bag.id, ⟨.named, ⟨.user "bag", gappedBag lost⟩⟩)] := rfl
    rw [known, List.lookup_cons] at found
    split at found
    · cases found
      exact formatter
    · cases found

end gaps

/--
A child that cannot be had is missing from its own place in a listing and shows in no other.

Two sessions in one state have pure formatters that agree but for this child, which the first is
given and the second is not. No child of the value is remembered yet, the identities that come up
are distinct, and neither arena outgrows what references reach.
-/
theorem failure_stays_local {replay : Replay} {registry : Registry} {options : SessionOptions}
    {requests : List (Request Int64)} {left right : Session} {value : Value} {index : Nat}
    (reached : left = (start replay registry options).after requests)
    (differs : left.DiffersAt value.id index right) (pure : left.Pure) (otherPure : right.Pure)
    {reference : Int64} {slot : Nat} {handle : Handle}
    (resolved : left.arena.resolve reference = some slot)
    (found : left.arena.handle? slot = some handle) (target : handle.target = .value value)
    (unfetched : ∀ position, handle.child? position = none) {child : Value}
    {error : FormatterError} (given : left.answersFor value index = .ok (some child))
    (lost : right.answersFor value index = .error error) (window : Window)
    (distinct : (value.id :: (childrenOf (left.serve slot value window).1).map Value.id).Nodup)
    (room : (left.listVariables reference window).2.arena.size ≤ Arena.capacity)
    (otherRoom : (right.listVariables reference window).2.arena.size ≤ Arena.capacity) :
    let listed := handle.listed (left.answersFor value) (left.classify value).1.kind window
      left.options.maxNamed
    let answer := (left.listVariables reference window).1
    let other := (right.listVariables reference window).1
    answer.descriptors.length = listed.length ∧ other.descriptors.length = listed.length ∧
      (∀ place position : Nat, listed[place]? = some position → ∃ shown beside : Descriptor,
        answer.descriptors[place]? = some shown ∧ other.descriptors[place]? = some beside ∧
          if position = index then
            beside = ⟨"[" ++ toString index ++ "]", "<error: " ++ error.message ++ ">", "", 0,
              none, none⟩
          else shown.Resembles beside) ∧
      other.diagnostic =
        if index ∈ listed then
          some (toString ((left.serve slot value window).1.countP isFailure + 1) ++
            " requested children of '" ++ value.name ++ "' failed")
        else answer.diagnostic := by
  intro listed answer other
  have beside : Beside value.id index [] left right :=
    differs.beside pure (reached ▸ after_wellFormed replay registry options requests)
  have arenas : right.arena = left.arena := by rw [differs.same]
  have limits : right.options = left.options := by rw [differs.same]
  -- Both serve the same positions, with the same outcomes but for the missing child.
  have fails := beside.failsAt List.not_mem_nil given lost
  have kinds := (beside.classify value List.not_mem_nil).1.kind
  have otherFound : right.arena.handle? slot = some handle := by rwa [arenas]
  have served := serve_listed pure found target unfetched window
  have otherServed := serve_listed otherPure otherFound target unfetched window
  rw [kinds, limits, Handle.listed_of_failsAt fails] at otherServed
  have expanded := listVariables_of_value resolved found target window
  have otherExpanded := listVariables_of_value (arenas ▸ resolved) otherFound target window
  -- The outcomes are then presented by two sessions that stand side by side.
  have next := beside.serve found otherFound target target window
  simp only [answer, other, expanded, otherExpanded, expand] at room otherRoom ⊢
  rw [served] at distinct room ⊢
  rw [otherServed] at otherRoom ⊢
  -- The identity of the value itself is none of those that come up in the listing.
  obtain ⟨alone, distinctChildren⟩ := List.nodup_cons.mp distinct
  have presented := next.present fails (left.classify value).1.kind listed distinctChildren
    (fun other member known => alone (List.mem_singleton.mp known ▸ member)) room otherRoom
  refine ⟨presented.length.1, presented.length.2, fun _ _ there => presented.shown there, ?_⟩
  exact failureNote_of_failsAt fails _ (handle.listed_nodup ..) value

/-- Behind its gap a bag is listed with a stand-in for the lost child and all others in place. -/
theorem failure_stays_local_of_gaps :
    let answer := ((gapped false).listVariables 0x100001 ⟨2, none⟩).1
    let other := ((gapped true).listVariables 0x100001 ⟨2, none⟩).1
    answer.descriptors.length = 3 ∧ other.descriptors.length = 3 ∧
      other.descriptors[0]? =
        some ⟨"[2]", "<error: failed to materialize child [2]: lost>", "", 0, none, none⟩ ∧
      other.diagnostic = some "2 requested children of 'v' failed" := by
  intro answer other
  have resolved : (gapped false).arena.resolve 0x100001 = some 0 := by decide +kernel
  have found : (gapped false).arena.handle? 0 =
      some ⟨.value bag, .sizeKnown .named, [], [], none⟩ := rfl
  have given : (gapped false).answersFor bag 2 = .ok (some (bagElement 2)) := rfl
  have lost : (gapped true).answersFor bag 2 = .error (.child "[2]" "lost") := rfl
  -- Positions two to four are listed, the last of them broken in both.
  obtain ⟨length, otherLength, shown, note⟩ := failure_stays_local rfl gapped_differs
    (gapped_pure false) (gapped_pure true) resolved found rfl (fun _ => rfl) given lost ⟨2, none⟩
    (by decide +kernel) (by decide +kernel) (by decide +kernel)
  obtain ⟨_, standIn, _, here, same⟩ := shown 0 2 rfl
  refine ⟨length, otherLength, ?_, note⟩
  cases same
  exact here

/--
A failure of another child is noted though the lost one lies outside the window.

The lost one is not counted where the enumeration ends before it.
-/
theorem note_without_lost_child :
    (gapped false).DiffersAt bag.id 2 (gapped true) ∧ (∀ lost, (gapped lost).Pure) ∧
      (∀ lost, (gapped lost).arena.resolve 0x100001 = some 0 ∧
        (gapped lost).arena.handle? 0 = some ⟨.value bag, .sizeKnown .named, [], [], none⟩ ∧
        ((gapped lost).listVariables 0x100001 .all).2.arena.size ≤ Arena.capacity) ∧
      (gapped false).answersFor bag 2 = .ok (some (bagElement 2)) ∧
      (gapped true).answersFor bag 2 = .error (.child "[2]" "lost") ∧
      [bag.id, (bagElement 2).id, (bagElement 3).id].Nodup ∧
      2 ∉ (⟨0, some 1⟩ : Window).positions .named 100 ∧ 2 ∈ Window.all.positions .named 100 ∧
      ((gapped true).listVariables 0x100001 ⟨0, some 1⟩).1.diagnostic =
        some "1 requested children of 'v' failed" ∧
      ((gapped true).listVariables 0x100001 .all).1.diagnostic =
        some "1 requested children of 'v' failed" := by
  -- One window ends before the child, and the other enumeration ends at position one.
  exact ⟨gapped_differs, gapped_pure, by decide +kernel, rfl, rfl, by decide +kernel,
    by decide +kernel, by decide +kernel, by decide +kernel, by decide +kernel⟩

end Session

end Inspection
