import Inspection.Proofs.Path.Letters
import Inspection.Proofs.Session.Leads

/-! A request that fails leaves a session as it was, except for what was learned on the way. -/

namespace Inspection

/-- Classifying a value counts only calls about it. -/
theorem Classifications.determine_entered (registry : Registry) (inquiry : Inquiry) (value : Value)
    (ledger : Ledger) :
    ∃ calls : List Call, (determine registry inquiry value ledger).2 =
      calls.foldl Ledger.enter ledger ∧ ∀ call ∈ calls, call.value = value := by
  -- Whether a size is asked for depends on what the formatter can do.
  simp only [determine]
  split
  · -- A size query is the only call that a classification may need.
    rcases asked : inquiry.size (registry.resolve value.type.name) value ledger with
      ⟨answer, counted⟩
    have entered : counted = ledger.enter
        (.size (registry.resolve value.type.name).source value answer) := by
      cases asked
      rfl
    refine ⟨[.size (registry.resolve value.type.name).source value answer], ?_,
      List.forall_mem_singleton.mpr rfl⟩
    cases answer <;> exact entered
  · refine ⟨[], ?_, List.forall_mem_nil _⟩
    split <;> rfl

namespace Session

variable {session later : Session} {value : Value} {keys : List ChildKey} {frame : Nat}
  {expression : String} {error : InspectError} {About : Value → Prop}

/--
Between two sessions some values have been asked about, and nothing else has happened.

Each call is about one of the values, and only what was not known before has become known.
A session in which a call has been made is no longer fresh.
-/
def Learns (before : Session) (About : Value → Prop) (after : Session) : Prop :=
  ∃ (added : Classifications) (calls : List Call),
    after = { before with
      known := added ++ before.known
      ledger := calls.foldl Ledger.enter before.ledger
      fresh := before.fresh && calls.isEmpty } ∧
    (∀ entry ∈ added, before.known.lookup entry.1 = none ∧
      ∃ value, About value ∧ value.id = entry.1) ∧
    ∀ call ∈ calls, About call.value

/-- A value to which a proper part of the path in an expression leads. -/
def Passes (session : Session) (frame : Nat) (expression : String) (value : Value) : Prop :=
  ∃ root front key back,
    Path.parse? (Text.trim expression) = some ⟨root, front ++ key :: back⟩ ∧
      (session.reach frame ⟨root, front⟩).1 = .ok value

namespace Learns

/-- Where nothing is asked nothing is learned. -/
theorem refl (session : Session) : session.Learns About session := by
  -- Nothing becomes known, no call is made, and the session is as fresh as before.
  refine ⟨[], [], ?_, List.forall_mem_nil _, List.forall_mem_nil _⟩
  cases session
  simp

/-- What is learned in two stretches is learned in both together. -/
theorem trans {first second third : Session} (early : first.Learns About second)
    (late : second.Learns About third) : first.Learns About third := by
  obtain ⟨old, before, rfl, oldNew, oldAbout⟩ := early
  obtain ⟨new, after, rfl, newNew, newAbout⟩ := late
  -- What became known later stands in front, and the later calls come last.
  refine ⟨new ++ old, before ++ after, ?_, ?_, List.forall_mem_append.mpr ⟨oldAbout, newAbout⟩⟩
  · have made : (before ++ after).isEmpty = (before.isEmpty && after.isEmpty) := by
      cases before <;> rfl
    simp only [List.append_assoc, List.foldl_append, made, Bool.and_assoc]
  · -- What was unknown after the first stretch was unknown before it.
    refine List.forall_mem_append.mpr ⟨fun entry member => ?_, oldNew⟩
    obtain ⟨unknown, about⟩ := newNew entry member
    rw [List.lookup_append, Option.or_eq_none_iff] at unknown
    exact ⟨unknown.2, about⟩

/-- What is learned of some values is learned of any that include them. -/
theorem mono {Other : Value → Prop} (learns : session.Learns About later)
    (within : ∀ value, About value → Other value) : session.Learns Other later := by
  -- The condition on the values occurs only where a call or a new identity is accounted for.
  obtain ⟨added, calls, left, new, about⟩ := learns
  refine ⟨added, calls, left, fun entry member => ?_,
    fun call member => within _ (about call member)⟩
  obtain ⟨unknown, value, held, same⟩ := new entry member
  exact ⟨unknown, value, within value held, same⟩

/-- What is known already stays as it is. -/
theorem kept (learns : session.Learns About later) {id : ValueId} {classification : Classification}
    (known : session.known.lookup id = some classification) :
    later.known.lookup id = some classification := by
  obtain ⟨added, calls, rfl, new, _⟩ := learns
  -- Nothing that is added is of a known identity, so it does not hide what is known.
  have absent : added.lookup id = none := by
    refine List.lookup_eq_none_iff.mpr fun entry member => ?_
    rw [bne_iff_ne]
    rintro rfl
    rw [(new entry member).1] at known
    cases known
  rw [List.lookup_append, absent, Option.none_or]
  exact known

end Learns

/-- Asking a value for a child teaches about that value. -/
theorem follow_learns (session : Session) (value : Value) (key : ChildKey) :
    session.Learns (· = value) (session.follow value key).2 := by
  let call := Call.child (childProvider (session.classify value).1).source value key
    (session.follow value key).1
  have asked : (session.follow value key).2 = { (session.classify value).2 with
      ledger := (session.classify value).2.ledger.enter call } := rfl
  rw [asked]
  cases known : session.known.lookup value.id with
  | some classification =>
    -- What is known is not asked for again, so the child is all that is asked for.
    refine ⟨[], [call], ?_, List.forall_mem_nil _, List.forall_mem_singleton.mpr rfl⟩
    simp only [session.classify_of_known value known, List.isEmpty_cons, Bool.and_false]
    rfl
  | none =>
    -- A new value is classified first, for which its size may be asked for.
    obtain ⟨sizes, counted, about⟩ := Classifications.determine_entered session.registry
      session.inquiry value session.ledger
    refine ⟨[(value.id, (session.classify value).1)], sizes ++ [call], ?_,
      List.forall_mem_singleton.mpr ⟨known, value, rfl, rfl⟩,
      List.forall_mem_append.mpr ⟨about, List.forall_mem_singleton.mpr rfl⟩⟩
    have made : (sizes ++ [call]).isEmpty = false := by cases sizes <;> rfl
    rw [made, Bool.and_false, List.foldl_append, ← counted]
    simp only [classify, Classifications.classify, known]
    rfl

/-- A value that is asked for a child on a walk. -/
def AsksOn (session : Session) (current : Value) (walked : String) (keys : List ChildKey)
    (value : Value) : Prop :=
  ∃ front key back, keys = front ++ key :: back ∧
    (session.walk current walked front).1 = .ok value

/-- A walk teaches about the values that it asks for a child. -/
theorem walk_learns (session : Session) (current : Value) (walked : String)
    (keys : List ChildKey) :
    session.Learns (session.AsksOn current walked keys) (session.walk current walked keys).2 := by
  -- The induction is on the keys, from the child that the first one leads to.
  induction keys generalizing session current walked with
  | nil => exact .refl session
  | cons key rest ih =>
    -- The first key is asked of the value that the walk begins at.
    have first : session.Learns (session.AsksOn current walked (key :: rest))
        (session.follow current key).2 :=
      (session.follow_learns current key).mono fun value same => ⟨[], key, rest, rfl, same ▸ rfl⟩
    rcases followed : session.follow current key with ⟨_ | _ | child, next⟩
    · -- The walk stops at an error, after that one question.
      rw [followed] at first
      simp only [walk, followed]
      exact first
    · rw [followed] at first
      simp only [walk, followed]
      exact first
    · -- What the rest of the walk asks, the whole walk asks behind one more key.
      rw [followed] at first
      rw [walk_of_child followed]
      refine first.trans ((ih next child _).mono ?_)
      rintro value ⟨front, after, back, rfl, came⟩
      refine ⟨key :: front, after, back, rfl, ?_⟩
      rw [walk_of_child followed]
      exact came

/-- An evaluation that fails teaches about the values that it passes. -/
theorem evaluate_learns (failed : session.evaluate frame expression = (.error error, later)) :
    session.Learns (session.Passes frame expression) later := by
  -- An evaluation that fails was refused or stopped on its walk.
  have course := session.evaluates frame expression
  rw [failed] at course
  cases course with
  | refused => exact .refl session
  | @stopped path locals start _ _ parsed found first came =>
    -- The values that the walk asks are those to which parts of the path lead.
    have learns := session.walk_learns start path.root path.keys
    rw [came] at learns
    refine learns.mono ?_
    rintro value ⟨front, key, back, split, reached⟩
    refine ⟨path.root, front, key, back, split ▸ parsed, ?_⟩
    simp only [reach, found, first]
    exact reached

/-- An evaluation that fails before it walks changes nothing. -/
theorem evaluate_unchanged (failed : session.evaluate frame expression = (.error error, later))
    (unwalked : Unwalked error) : later = session := by
  -- It was refused, in which case the session has not been touched, or it stopped on its walk.
  have course := session.evaluates frame expression
  rw [failed] at course
  cases course with
  | refused => rfl
  | stopped _ _ _ came =>
    -- A walk fails for other reasons.
    obtain ⟨_, _, _, _, _, _, _, _, _, ⟨_, _, rfl⟩ | ⟨_, rfl⟩⟩ := walk_stops came <;> cases unwalked

/-- A reference that leads nowhere is answered with the reason, and nothing changes. -/
theorem listVariables_unresolved {reference : Int64}
    (unresolved : session.arena.resolve reference = none) (window : Window) :
    session.listVariables reference window =
      (refusal (InspectError.unknownHandle reference).message, session) := by
  -- The arena leads no such reference to a target.
  have nowhere : session.target? reference = none := by rw [target?, unresolved]; rfl
  simp only [listVariables, nowhere]

/-- A program that is gone has no scopes, and nothing changes. -/
theorem scopes_of_exited (gone : session.replay.state = .exited) (frame : Nat) :
    session.scopes frame = (.error (.replay .notStopped), session) := by
  -- A cursor at which a stop is recorded belongs to a program that is stopped there.
  have missing : session.replay.current = .error .notStopped := by
    rw [Replay.current]
    cases held : session.replay.stops[session.replay.cursor]? with
    | none => rfl
    | some stop =>
      rw [Replay.state, held] at gone
      cases gone
  have unframed : session.replay.frames = .error .notStopped := by rw [Replay.frames, missing]; rfl
  simp only [scopes, unframed]

/-- A frame that is not recorded has no scopes, and nothing changes. -/
theorem scopes_of_missing {stop : RecordedStop} (current : session.replay.current = .ok stop)
    (missing : stop.frames.length ≤ frame) :
    session.scopes frame = (.error (.replay (.unknownFrame frame)), session) := by
  -- The frames of a stop are numbered up to their count.
  have framed : session.replay.frames =
      .ok (stop.frames.mapIdx fun index recorded => ⟨index, recorded.name⟩) := by
    rw [Replay.frames, current]
    rfl
  -- A frame past the count is not among them.
  have unlisted : ¬ ((stop.frames.mapIdx fun index recorded => Frame.mk index recorded.name).any
      fun candidate => candidate.index == frame) = true := by
    rw [List.any_eq_true]
    rintro ⟨candidate, member, same⟩
    obtain ⟨index, inside, rfl⟩ := List.mem_mapIdx.mp member
    have here : index = frame := eq_of_beq same
    omega
  simp only [scopes, framed, if_neg unlisted]

/-- Where a walk has come to, it comes again after a key has been asked for. -/
theorem reach_walked (pure : session.Pure) {root : String} {locals : List Value} {start : Value}
    {between : Session} (found : session.replay.locals frame = .ok locals)
    (first : (locals.find? fun candidate => candidate.name == root) = some start)
    (came : session.walk start root keys = (.ok value, between)) (key : ChildKey) :
    ∃ ledger, (between.follow value key).2.reach frame ⟨root, keys⟩ =
      (.ok value, { (between.follow value key).2 with ledger }) := by
  obtain ⟨leads, _, _, unmoved⟩ := leads_of_walk pure came
  -- Asking for the key forgets nothing of what the walk has led through.
  have still : (between.follow value key).2.inquiry = between.inquiry := rfl
  have leadsThen : (between.follow value key).2.Leads start keys value :=
    leads.mono (between.classify_grows value).known still
  -- The walk begins at the same local as before.
  have located : (between.follow value key).2.replay.locals frame = .ok locals := by
    rw [show (between.follow value key).2.replay = session.replay from
      congrArg Inquiry.replay (still.trans unmoved)]
    exact found
  obtain ⟨ledger, reading, walked⟩ :=
    leadsThen.walk_append rfl [] (between.follow value key).2.ledger root
  refine ⟨ledger, ?_⟩
  rw [List.append_nil] at walked
  simp only [reach, located, first]
  exact walked

/-- A part of a path is evaluated by its own text. -/
theorem evaluate_part {root : String} {front back : List ChildKey} {text : String}
    (parsed : Path.parse? text = some ⟨root, front ++ back⟩) (session : Session) (frame : Nat) :
    Path.parse? (Path.text ⟨root, front⟩) = some ⟨root, front⟩ ∧
      session.evaluate frame (Path.text ⟨root, front⟩) =
        ((session.evaluatePath frame ⟨root, front⟩).1.map .value,
          (session.evaluatePath frame ⟨root, front⟩).2) := by
  -- What is spelled in part is spelled by its own text, from which nothing is cut.
  have wellFormed := (Path.parse?_eq_some_iff.mp parsed).wellFormed
  have part : Path.WellFormed ⟨root, front⟩ :=
    ⟨wellFormed.root, fun key mem => wellFormed.keys key (List.mem_append_left _ mem)⟩
  have unmarked : (Path.text ⟨root, front⟩).toList.head? ≠ some Console.mark := by
    intro marked
    exact absurd (part.spelledBy_text.head _ marked) (by decide)
  have trimmed := part.trim_text
  exact ⟨part.parse?_text, evaluate_of_parsed session frame (trimmed.symm ▸ unmarked)
    (trimmed.symm ▸ part.parse?_text)⟩

/-- What a walk has come to before a missing child is evaluated by the words of the failure. -/
theorem evaluate_walked (pure : session.Pure) {reached missing : String}
    (failed : session.evaluate frame expression = (.error (.noSuchChild reached missing), later)) :
    ∃ root front key back value ledger,
      Path.parse? (Text.trim expression) = some ⟨root, front ++ key :: back⟩ ∧
      Path.parse? reached = some ⟨root, front⟩ ∧ missing = key.text ∧
      (session.reach frame ⟨root, front⟩).1 = .ok value ∧
      later.reach frame ⟨root, front⟩ = (.ok value, { later with ledger }) ∧
      later.evaluate frame reached =
        (.ok (.value (Session.describe { later with ledger } value).1),
          (Session.describe { later with ledger } value).2) ∧
      (later.follow value key).1 = .ok none ∧
      ((later.evaluate frame reached).2.follow value key).1 = .ok none := by
  obtain ⟨root, front, key, back, locals, start, value, between, parsed, rfl, rfl, found, first,
    walked, followed⟩ := evaluate_stops failed
  -- The session that is left is the one in which the key has been asked for.
  have lost : (between.follow value key).1 = .ok none := congrArg Prod.fst followed
  obtain rfl : (between.follow value key).2 = later := congrArg Prod.snd followed
  obtain ⟨_, _, pureBetween, _⟩ := leads_of_walk pure walked
  obtain ⟨ledger, again⟩ := reach_walked pure found first walked key
  obtain ⟨read, asWalked⟩ := evaluate_part parsed (between.follow value key).2 frame
  have evaluated : (between.follow value key).2.evaluate frame (Path.text ⟨root, front⟩) =
      (.ok (.value (Session.describe { (between.follow value key).2 with ledger } value).1),
        (Session.describe { (between.follow value key).2 with ledger } value).2) := by
    rw [asWalked, evaluatePath, again]
    rfl
  -- The value is still classified as it was when the key was asked for.
  have known : (between.follow value key).2.known.lookup value.id =
      some (between.classify value).1 := between.classify_lookup value
  refine ⟨root, front, key, back, value, ledger, parsed, read, rfl, ?_, again, evaluated,
    (follow_unaffected pureBetween known rfl key).trans lost, ?_⟩
  · simp only [reach, found, first, walked]
  · obtain ⟨_, _, left⟩ :=
      Session.describe_eq { (between.follow value key).2 with ledger } value
    -- Describing the value does not classify it anew.
    refine (follow_unaffected pureBetween ?_ ?_ key).trans lost
    · rw [evaluated, left]
      exact (Session.classify_grows { (between.follow value key).2 with ledger } value).known _ _
        known
    · rw [evaluated, left]
      rfl

/--
A request that fails leaves the session intact, and its error leads to where it failed.

A reference that leads nowhere is listed as no variables with the reason.
A frame that is not recorded has no scopes, nor has any frame of a program that is gone.
None of this changes anything.
An evaluation that fails may classify and ask the values on its path, and nothing else changes.
If it has not begun to walk, nothing changes at all.
Where a child is missing and formatters ignore earlier calls, the path in the error is evaluated
next, in the same frame, to the value that lacks the child.
-/
theorem failure_leaves_intact (session : Session) :
    (∀ reference window, session.arena.resolve reference = none →
      session.listVariables reference window =
        (⟨[], some (InspectError.unknownHandle reference).message⟩, session)) ∧
    (session.replay.state = .exited → ∀ frame,
      session.scopes frame = (.error (.replay .notStopped), session)) ∧
    (∀ stop frame, session.replay.current = .ok stop → stop.frames.length ≤ frame →
      session.scopes frame = (.error (.replay (.unknownFrame frame)), session)) ∧
    (∀ frame expression error later,
      session.evaluate frame expression = (.error error, later) →
        session.Learns (session.Passes frame expression) later ∧
        (∀ id classification, session.known.lookup id = some classification →
          later.known.lookup id = some classification) ∧
        later.arena = session.arena ∧ later.generation = session.generation ∧
        later.stop = session.stop ∧ later.registry = session.registry ∧
        (Unwalked error → later = session)) ∧
    ∀ replay registry options requests, registry.Pure →
      session = (start replay registry options).after requests →
        ∀ frame expression reached missing later,
          session.evaluate frame expression = (.error (.noSuchChild reached missing), later) →
            ∃ root front key back value ledger,
              Path.parse? (Text.trim expression) = some ⟨root, front ++ key :: back⟩ ∧
              Path.parse? reached = some ⟨root, front⟩ ∧ missing = key.text ∧
              (session.reach frame ⟨root, front⟩).1 = .ok value ∧
              later.reach frame ⟨root, front⟩ = (.ok value, { later with ledger }) ∧
              later.evaluate frame reached =
                (.ok (.value (Session.describe { later with ledger } value).1),
                  (Session.describe { later with ledger } value).2) ∧
              (later.follow value key).1 = .ok none ∧
              ((later.evaluate frame reached).2.follow value key).1 = .ok none := by
  refine ⟨fun _ window unresolved => listVariables_unresolved unresolved window, scopes_of_exited,
    fun _ _ => scopes_of_missing, ?_, ?_⟩
  · -- All that an evaluation learned, and nothing that was known, can differ.
    intro frame expression error later failed
    have learns := evaluate_learns failed
    have unchanged := evaluate_unchanged failed
    have kept : ∀ id classification, session.known.lookup id = some classification →
        later.known.lookup id = some classification := fun _ _ => learns.kept
    refine ⟨learns, kept, ?_⟩
    obtain ⟨_, _, rfl, _⟩ := learns
    exact ⟨rfl, rfl, rfl, rfl, unchanged⟩
  · -- Formatters that ignore earlier calls do so in every session that requests lead to.
    rintro replay registry options requests pure rfl frame expression reached missing later failed
    exact evaluate_walked (after_pure replay pure options requests) failed

/-- A scalar has no members, and the error tells the path that leads to it. -/
example : ((start ⟨[⟨.breakpoint, [⟨"main", [⟨"n", "int", "5", .scalar, []⟩]⟩]⟩], 0⟩ .empty
    ⟨.unbounded, 100⟩).evaluate 0 "n.x").1 = .error (.noSuchChild "n" "x") := by
  have parsed : Path.parse? "n.x" = some ⟨"n", [.member "x"]⟩ := by decide +kernel
  have trimmed : Text.trim "n.x" = "n.x" := by decide +kernel
  rw [evaluate_of_parsed _ 0 (by decide) (trimmed.symm ▸ parsed)]
  rfl

end Session

end Inspection
