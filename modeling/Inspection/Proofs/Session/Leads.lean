import Inspection.Proofs.Path.Letters
import Inspection.Proofs.Session.Attested
import Inspection.Proofs.Session.Boundary
import Inspection.Proofs.Session.Expression
import Inspection.Proofs.Session.Repetition

/-! A path that has led to a value leads there until the stop ends, and on to its children. -/

namespace Inspection

namespace Session

variable {session later : Session} {value reached child : Value} {key : ChildKey}
  {keys : List ChildKey} {frame : Nat} {path : Path} {text : String} {shown : Descriptor}

/-- Each key leads from a value that is classified to a child that is answered at any time. -/
inductive Leads (session : Session) : Value → List ChildKey → Value → Prop where
  | nil {value : Value} : Leads session value [] value
  | cons {value child reached : Value} {key : ChildKey} {rest : List ChildKey}
      {classification : Classification}
      (known : session.known.lookup value.id = some classification)
      (given : ∀ ledger, (session.inquiry.child (childProvider classification) value key ledger).1 =
        .ok (some child))
      (further : Leads session child rest reached) : Leads session value (key :: rest) reached

/-- A walk leads on as long as nothing that is known is forgotten. -/
theorem Leads.mono (leads : session.Leads value keys reached)
    (known : ∀ id classification, session.known.lookup id = some classification →
      later.known.lookup id = some classification)
    (unmoved : later.inquiry = session.inquiry) : later.Leads value keys reached := by
  -- The induction is on the keys, each of which leads on from the same classification.
  induction leads with
  | nil => exact .nil
  | cons here given _ ih => exact .cons (known _ _ here) (unmoved ▸ given) ih

variable (session) in
/-- A value that is classified is asked for a child by a call alone. -/
theorem follow_of_known (used : session.fresh = false) {classification : Classification}
    (known : session.known.lookup value.id = some classification) (key : ChildKey) :
    session.follow value key =
      ((session.inquiry.child (childProvider classification) value key session.ledger).1,
        { session with ledger := (session.inquiry.child (childProvider classification) value key
          session.ledger).2 }) := by
  -- Looking the classification up changes nothing once something has been classified.
  simp only [follow, classify_again used known]

/-- A walk goes on from where keys have led, and only calls have been made on the way. -/
theorem Leads.walk_append (leads : session.Leads value keys reached)
    (used : session.fresh = false) (further : List ChildKey) (ledger : Ledger) (walked : String) :
    ∃ last reading, Session.walk { session with ledger } value walked (keys ++ further) =
      Session.walk { session with ledger := last } reached reading further := by
  -- The induction is on the keys that have led somewhere, each of which is answered as before.
  induction leads generalizing ledger walked with
  | nil => exact ⟨ledger, walked, rfl⟩
  | @cons value child _ key _ classification known given _ ih =>
    have followed := follow_of_known { session with ledger } used known key
    have answered := given ledger
    obtain ⟨last, reading, same⟩ := ih
      (session.inquiry.child (childProvider classification) value key ledger).2
      (walked ++ key.segment)
    refine ⟨last, reading, Eq.trans (walk_of_child ?_ walked _) same⟩
    exact followed.trans (congrArg (Prod.mk · _) answered)

/-- A walk that has come to a value leads there from then on. -/
theorem leads_of_walk (pure : session.Pure) {walked : String} {next : Session}
    (came : session.walk value walked keys = (.ok reached, next)) :
    next.Leads value keys reached ∧ session.Grows next ∧ next.Pure ∧
      next.inquiry = session.inquiry := by
  -- The induction is on the keys, from the child that the first one leads to.
  induction keys generalizing session value walked with
  | nil =>
    cases came
    exact ⟨.nil, .of_eq rfl rfl, pure, rfl⟩
  | cons key rest ih =>
    have grows : session.Grows (session.follow value key).2 :=
      (session.classify_grows value).trans (.of_eq rfl rfl)
    have known : (session.follow value key).2.known.lookup value.id =
        some (session.classify value).1 := session.classify_lookup value
    have supplied := childProvider_pure (pure.classify value).1
    have kept := pure.perform (.follow value key)
    have answer : (session.follow value key).1 = (session.inquiry.child
        (childProvider (session.classify value).1) value key
        (session.classify value).2.ledger).1 := rfl
    have unmoved : (session.follow value key).2.inquiry = session.inquiry := rfl
    simp only [Session.perform] at kept
    -- The walk has come to a value, so the first key was answered with a child.
    rcases followed : session.follow value key with ⟨error | _ | child, between⟩
    · simp only [walk, followed] at came
      cases came
    · simp only [walk, followed] at came
      cases came
    · rw [followed] at grows known kept answer unmoved
      rw [walk_of_child followed] at came
      obtain ⟨leads, further, pureThen, unmovedThen⟩ := ih kept came
      -- A pure formatter gives the same child after any other calls.
      refine ⟨.cons (further.known _ _ known) (fun ledger => ?_) leads, grows.trans further,
        pureThen, unmovedThen.trans unmoved⟩
      rw [unmovedThen, unmoved]
      exact (session.inquiry.child_unaffected value _ _ supplied key).trans answer.symm

/-- A value whose classification is still known has the same child for a key. -/
theorem follow_unaffected (pure : session.Pure)
    (known : later.known.lookup value.id = some (session.classify value).1)
    (unmoved : later.inquiry = session.inquiry) (key : ChildKey) :
    (later.follow value key).1 = (session.follow value key).1 := by
  -- The same provider is asked, and it does not look at the calls between.
  have same : (later.classify value).1 = (session.classify value).1 := by
    rw [later.classify_of_known value known]
  have asked : (later.follow value key).1 = (later.inquiry.child
    (childProvider (later.classify value).1) value key (later.classify value).2.ledger).1 := rfl
  rw [asked, same, unmoved]
  exact session.inquiry.child_unaffected value _ _ (childProvider_pure (pure.classify value).1) key

/-- Sessions that know the same describe a value alike if their arenas do. -/
theorem describe_congr (pure : session.Pure) (unmoved : later.inquiry = session.inquiry)
    (registry : later.registry = session.registry) (known : later.known = session.known)
    (arenas : ∀ classification summary,
      (later.arena.describe value classification summary).1 =
        (session.arena.describe value classification summary).1) :
    (later.describe value).1 = (session.describe value).1 := by
  -- A value that is not classified yet is classified by the same formatter.
  have same : (later.classify value).1 = (session.classify value).1 := by
    simp only [classify, Classifications.classify, known, registry, unmoved]
    cases session.known.lookup value.id with
    | some classification => rfl
    | none => exact Classifications.determine_unaffected pure.registered _ _ _ _
  have summaries : later.offeredSummary value = session.offeredSummary value := by
    simp only [offeredSummary, same]
    exact summary_of_inquiry (session.classify value).2 (later.classify value).2 unmoved
      (pure.classify value).1 value
  rw [(later.describe_of_summary value).1, (session.describe_of_summary value).1, same, summaries]
  exact arenas _ _

/--
A path leads from a local variable to a value that has been shown.

The formatters of the session are declared ones, so what the value is asked for is answered alike
until the stop ends.
-/
structure Located (session : Session) (frame : Nat) (path : Path) (value : Value)
    (shown : Descriptor) : Prop where
  attested : session.Attested Formatter.IsDeclared
  pure : session.Pure
  used : session.fresh = false
  reports : session.replay.Reports value
  granted : (Grant.value value shown).Holds session
  leads : ∃ locals start, session.replay.locals frame = .ok locals ∧
    (locals.find? fun candidate => candidate.name == path.root) = some start ∧
      session.Leads start path.keys value

/-- An evaluation that shows a value walks to it from a local variable and describes it. -/
theorem walk_of_evaluate {expression : String}
    (evaluates : session.evaluate frame expression = (.ok (.value shown), later)) :
    ∃ path locals start value next, Path.parse? (Text.trim expression) = some path ∧
      session.replay.locals frame = .ok locals ∧
      (locals.find? fun candidate => candidate.name == path.root) = some start ∧
      session.walk start path.root path.keys = (.ok value, next) ∧
      next.describe value = (shown, later) := by
  -- Of all the courses of an evaluation only a walk to its end shows a value.
  have course := session.evaluates frame expression
  rw [evaluates] at course
  cases course with
  | reached parsed found first came => exact ⟨_, _, _, _, _, parsed, found, first, came, rfl⟩

/-- What an evaluation shows is located by the path that the expression spells. -/
theorem located_of_evaluate (attested : session.Attested Formatter.IsDeclared) (pure : session.Pure)
    {expression : String}
    (evaluates : session.evaluate frame expression = (.ok (.value shown), later)) :
    ∃ path value, path.SpelledBy (Text.trim expression) ∧
      later.Located frame path value shown := by
  -- The walk begins at a recorded variable, and steady formatters lead on to reported values.
  obtain ⟨path, locals, start, value, next, parsed, located, first, came, described⟩ :=
    walk_of_evaluate evaluates
  have reported := recorded_locals located start (List.mem_of_find?_eq_some first)
  obtain ⟨_, leads, kept, there⟩ := (attested_upheld Formatter.IsDeclared).walk attested
    reported path.root path.keys
  rw [came] at leads kept there
  obtain ⟨rfl, rfl⟩ : (next.describe value).1 = shown ∧ (next.describe value).2 = later :=
    Prod.ext_iff.mp described
  -- The end of the walk is described by the session that the walk leaves.
  obtain ⟨led, _, pureThen, unmoved⟩ := leads_of_walk pure came
  have reports : next.replay.Reports value := there ▸ leads value rfl
  obtain ⟨_, grows⟩ := describe_grows kept.formed value
  have still : (next.perform (.describe value)).inquiry = next.inquiry :=
    next.inquiry_of_quiet rfl
  have used : (next.perform (.describe value)).fresh = false := perform_used rfl
  have here : (next.describe value).2.replay = next.replay := congrArg Inquiry.replay still
  refine ⟨path, value, Path.parse?_eq_some_iff.mp parsed, kept.describe reports,
    pureThen.perform (.describe value), used, here ▸ reports, ?_, locals, start, ?_, first,
    led.mono grows.known still⟩
  · exact grants_hold kept.formed (.describe value) _ (List.mem_singleton_self _)
  · rw [here, there]
    exact located

namespace Located

variable (located : session.Located frame path value shown)

include located

/-- What is located stays so whatever is asked of reported values. -/
theorem perform {step : Step} (quiet : step.isQuiet = true) (fits : session.Fits step) :
    (session.perform step).Located frame path value shown := by
  -- A quiet step moves nothing, and it keeps whatever has been learned of the stop.
  have stays := Step.stays_of_quiet quiet session
  obtain ⟨locals, start, found, first, led⟩ := located.leads
  obtain ⟨_, grows⟩ := perform_grows located.attested.formed stays
  have unmoved : (session.perform step).replay = session.replay := (perform_quiet quiet).1
  have still : (session.perform step).inquiry = session.inquiry := session.inquiry_of_quiet quiet
  refine ⟨located.attested.perform fits, located.pure.perform step, ?_, unmoved ▸ located.reports,
    located.granted.mono grows, locals, start, unmoved ▸ found, first, led.mono grows.known still⟩
  -- What has been used before stays used.
  rw [← Bool.not_eq_true, perform_fresh stays, located.used]
  exact fun both => Bool.false_ne_true both.1

/-- What is located stays so whatever is counted. -/
theorem ofLedger (ledger : Ledger) : Located { session with ledger } frame path value shown := by
  -- Nothing that locates a value speaks of the calls.
  obtain ⟨attested, pure, used, reports, granted, locals, start, found, first, led⟩ := located
  exact ⟨⟨attested.steady, attested.registered, attested.formed, attested.known, attested.handles⟩,
    pure.ofLedger ledger, used, reports, granted.mono (.of_eq rfl rfl), locals, start, found, first,
    led.mono (fun _ _ known => known) rfl⟩

/-- The classification of what is located is known, and made by a declared formatter if by any. -/
theorem classified : session.known.lookup value.id = some (session.classify value).1 ∧
    (session.classify value).1.DueTo Formatter.IsDeclared session.inquiry value := by
  -- Whatever has been shown has been classified.
  obtain ⟨classification, known, _⟩ := located.granted
  rw [session.classify_of_known value known]
  exact ⟨known, located.attested.dueTo located.reports known⟩

/-- A child is answered alike whatever has been counted, and only that is changed by asking. -/
theorem follow (key : ChildKey) (ledger : Ledger) :
    ∃ last, Session.follow { session with ledger } value key =
      ((session.follow value key).1, { session with ledger := last }) := by
  -- The value is classified already and its provider is pure, so only the call is entered.
  have supplied := childProvider_pure (located.pure.classify value).1
  have answers := session.inquiry.child_unaffected value ledger
    (session.classify value).2.ledger supplied key
  refine ⟨_, (follow_of_known { session with ledger } located.used
    located.classified.1 key).trans (congrArg (Prod.mk · _) answers)⟩

/-- Later in the stop a child is answered as before. -/
theorem follow_congr (grows : session.Grows later) (unmoved : later.inquiry = session.inquiry)
    (key : ChildKey) : (later.follow value key).1 = (session.follow value key).1 :=
  follow_unaffected located.pure (grows.known _ _ located.classified.1) unmoved key

/-- The path still leads to the value, and only calls are made on the way. -/
theorem reach : ∃ ledger, session.reach frame path = (.ok value, { session with ledger }) := by
  -- The keys have led to the value, and no further key is left.
  obtain ⟨locals, start, found, first, led⟩ := located.leads
  obtain ⟨ledger, reading, walked⟩ := led.walk_append located.used [] session.ledger path.root
  refine ⟨ledger, ?_⟩
  rw [List.append_nil] at walked
  simp only [Session.reach, found, first]
  exact walked

/-- A path that is one key longer leads on to the child that is answered for the key. -/
theorem reach_segment (key : ChildKey) :
    ∃ ledger reading, session.reach frame ⟨path.root, path.keys ++ [key]⟩ =
      (match (session.follow value key).1 with
        | .ok (some child) => .ok child
        | .ok none => .error (.noSuchChild reading key.text)
        | .error error => .error (.formatter error),
        { session with ledger }) := by
  -- Up to its last key the path has led somewhere already.
  obtain ⟨locals, start, found, first, led⟩ := located.leads
  -- The walk is taken up again where the shorter path ends.
  obtain ⟨last, reading, walked⟩ := led.walk_append located.used [key] session.ledger path.root
  obtain ⟨ledger, followed⟩ := located.follow key last
  refine ⟨ledger, reading, ?_⟩
  simp only [Session.reach, found, first]
  refine walked.trans ?_
  simp only [walk, followed]
  rcases (session.follow value key).1 with error | _ | child <;> rfl

/-- A path that is one key longer is evaluated to the child that is answered for the key. -/
theorem evaluate_segment (trimmed : Text.trim text = text) (spelled : path.SpelledBy text)
    (writable : key.IsWritable) :
    ∃ ledger reading, session.evaluate frame (text ++ key.segment) =
      match (session.follow value key).1 with
      | .ok (some child) =>
        (.ok (.value (Session.describe { session with ledger } child).1),
          (Session.describe { session with ledger } child).2)
      | .ok none => (.error (.noSuchChild reading key.text), { session with ledger })
      | .error error => (.error (.formatter error), { session with ledger }) := by
  -- The longer text is trimmed, spells the longer path and is no console line.
  have longer := spelled.segment writable
  have whole : Text.trim (text ++ key.segment) = text ++ key.segment := by
    rw [Text.trim_eq_self_iff, String.toList_append]
    exact (Text.trim_eq_self_iff.mp trimmed).append (Path.isTrimmed_segment writable)
  have unmarked : (text ++ key.segment).toList.head? ≠ some Console.mark := by
    intro marked
    exact absurd (longer.head _ marked) (by decide)
  obtain ⟨ledger, reading, reached⟩ := located.reach_segment key
  refine ⟨ledger, reading, ?_⟩
  rw [evaluate_of_parsed session frame (whole.symm ▸ unmarked)
    (whole.symm ▸ Path.parse?_eq_some_iff.mpr longer), evaluatePath, reached]
  rcases (session.follow value key).1 with error | _ | child <;> rfl

end Located

/-- Of a located value a child is answered for a key, and a descriptor shows it. -/
structure Offers (session : Session) (frame : Nat) (path : Path) (value : Value)
    (shown : Descriptor) (key : ChildKey) (child : Value) (named : Descriptor) : Prop where
  located : session.Located frame path value shown
  given : (session.follow value key).1 = .ok (some child)
  named : (session.describe child).1 = named

namespace Offers

variable {named : Descriptor} (offers : session.Offers frame path value shown key child named)

include offers

/-- The child that is answered is the recorded one. -/
theorem recorded : session.replay.child value key = .ok (some child) :=
  -- Declared formatters give recorded children only.
  offers.located.classified.2.child_recorded offers.given

/-- A path that is one key longer leads to the child. -/
theorem reach : (session.reach frame ⟨path.root, path.keys ++ [key]⟩).1 = .ok child := by
  -- The last key of the longer path is answered with the child.
  obtain ⟨ledger, reading, reached⟩ := offers.located.reach_segment key
  rw [reached, offers.given]

/-- What is offered stays so after a call. -/
theorem ofLedger (ledger : Ledger) :
    Offers { session with ledger } frame path value shown key child named := by
  have located := offers.located.ofLedger ledger
  refine ⟨located, ?_, ?_⟩
  · obtain ⟨last, followed⟩ := offers.located.follow key ledger
    rw [followed]
    exact offers.given
  · -- A pure formatter gives the same summary whatever calls have been made.
    have same : (Session.describe { session with ledger } child).1 = (session.describe child).1 :=
      describe_congr offers.located.pure rfl rfl rfl fun _ _ => rfl
    exact same.trans offers.named

/-- What is offered stays so after the child has been described. -/
theorem described : (session.describe child).2.Offers frame path value shown key child named := by
  have located := offers.located
  have reports := Replay.reports_of_child offers.recorded
  obtain ⟨_, grows⟩ := describe_grows located.attested.formed child
  have unmoved : (session.perform (.describe child)).inquiry = session.inquiry :=
    session.inquiry_of_quiet rfl
  have kept : (session.perform (.describe child)).Located frame path value shown :=
    located.perform rfl reports
  refine ⟨kept, ?_, ?_⟩
  · -- Describing the child forgets nothing of the value.
    rw [located.follow_congr grows unmoved]
    exact offers.given
  · -- What has been described once is described alike a second time.
    obtain ⟨ledger, again, _⟩ :=
      (shows_describe located.pure located.attested.formed child).again
    rw [again]
    exact offers.named

/-- A path that is one key longer is evaluated to the child that is offered. -/
theorem evaluate (trimmed : Text.trim text = text) (spelled : path.SpelledBy text)
    (writable : key.IsWritable) :
    (session.evaluate frame (text ++ key.segment)).1 = .ok (.value named) ∧
      (session.evaluate frame (text ++ key.segment)).2.Offers frame path value shown key child
        named := by
  -- The longer path ends at the child, which is described as it was offered.
  obtain ⟨ledger, reading, evaluated⟩ := offers.located.evaluate_segment trimmed spelled writable
  have called := offers.ofLedger ledger
  rw [evaluated, offers.given]
  exact ⟨by simp only [called.named], called.described⟩

end Offers

/-- Where a path that is one key longer is evaluated, its key has a child to offer. -/
theorem Located.offers_of_evaluate (located : session.Located frame path value shown)
    (trimmed : Text.trim text = text) (spelled : path.SpelledBy text) (writable : key.IsWritable)
    {answer : Evaluation}
    (evaluated : (session.evaluate frame (text ++ key.segment)).1 = .ok answer) :
    ∃ child named, session.Offers frame path value shown key child named ∧
      answer = .value named := by
  -- A key without a child ends the evaluation with an error.
  obtain ⟨ledger, reading, same⟩ := located.evaluate_segment trimmed spelled writable
  rcases given : (session.follow value key).1 with error | _ | child
  · rw [same, given] at evaluated
    cases evaluated
  · rw [same, given] at evaluated
    cases evaluated
  · have offers : session.Offers frame path value shown key child (session.describe child).1 :=
      ⟨located, given, rfl⟩
    rw [(offers.evaluate trimmed spelled writable).1] at evaluated
    cases evaluated
    exact ⟨child, _, offers, rfl⟩

end Session

end Inspection
