import Inspection.Proofs.Children.Enumeration
import Inspection.Proofs.Session.Visit

/-! The first classification of a value at a stop is the only one, and asks for at most one size. -/

namespace Inspection

/-- The size queries about one identity among some calls. -/
def sizeQueries (calls : List Call) (id : ValueId) : List Call :=
  calls.filter fun call => call.isSize && call.value.id == id

/-- Size queries of two stretches of calls. -/
theorem sizeQueries_append (first second : List Call) (id : ValueId) :
    sizeQueries (first ++ second) id = sizeQueries first id ++ sizeQueries second id :=
  List.filter_append ..

/-- Calls that ask for no size contain no size query. -/
theorem sizeQueries_eq_nil {calls : List Call} (other : ∀ call ∈ calls, call.isSize = false)
    (id : ValueId) : sizeQueries calls id = [] := by
  -- The filter drops every one of them.
  apply List.filter_eq_nil_iff.mpr
  intro call member
  simp [other call member]

/-- A ruling follows from the formatter of its moment and from the size queries made for it. -/
def Ruling.SettledBy (ruling : Ruling) (queries : List Call) : Prop :=
  let provider := ruling.registry.resolve ruling.value.type.name
  let offered := provider.formatter.capabilities ruling.value.type
  ruling.answer.provider = provider ∧
    if offered.size ∧ offered.indexed then
      ∃ answer, queries = [.size provider.source ruling.value answer] ∧
        ruling.answer.kind = match answer with
          | .ok count => .indexed count
          -- A size query that fails leaves the children to be reached one by one.
          | .error _ => .named
    else queries = [] ∧ ruling.answer.kind = if offered.named then .named else .undeclared

/-- A classification from the formatter makes the size query that is due and no other call. -/
theorem Classifications.determine_settled (registry : Registry) (inquiry : Inquiry) (value : Value)
    (ledger : Ledger) :
    ∃ queries, (determine registry inquiry value ledger).2.history = queries ++ ledger.history ∧
      (∀ call ∈ queries, call.isSize = true ∧ call.value = value) ∧
      Ruling.SettledBy ⟨value, registry, (determine registry inquiry value ledger).1⟩ queries := by
  -- What matters of the formatter is whether it gives both a size and positions.
  simp only [determine, Ruling.SettledBy, Capabilities.isIndexed]
  generalize registry.resolve value.type.name = provider
  generalize provider.formatter.capabilities value.type = offered
  by_cases sized : offered.indexed = true ∧ offered.size = true
  · -- The one query goes to the provider that the answer keeps.
    have history := inquiry.history_size provider value ledger
    simp only [sized.1, sized.2, Bool.and_self, if_true, and_self]
    rcases answered : inquiry.size provider value ledger with ⟨error | count, asked⟩
    · rw [answered] at history
      exact ⟨_, history, by simp [Call.isSize, Call.value], rfl, _, rfl, rfl⟩
    · rw [answered] at history
      exact ⟨_, history, by simp [Call.isSize, Call.value], rfl, _, rfl, rfl⟩
  · have undue : (offered.indexed && offered.size) = false := by simpa using sized
    have swapped : ¬(offered.size = true ∧ offered.indexed = true) :=
      fun both => sized ⟨both.2, both.1⟩
    simp only [undue, Bool.false_eq_true, if_false, if_neg swapped]
    refine ⟨[], ?_, by simp, ?_, rfl, ?_⟩ <;> cases offered.named <;> rfl

namespace Session

variable (session : Session) (value : Value)

/-- A value that has been classified is not classified again. -/
theorem classify_of_known {classification : Classification}
    (found : session.known.lookup value.id = some classification) :
    session.classify value = (classification, { session with fresh := false }) := by
  -- The look-up comes first, before any formatter is asked.
  simp only [classify, Classifications.classify, found]

/-- A new value is classified by the formatter registered for its type, with the size query due. -/
theorem classify_of_new (new : session.known.lookup value.id = none) :
    ∃ queries,
      (session.classify value).2.known = (value.id, (session.classify value).1) :: session.known ∧
      (session.classify value).2.ledger.history = queries ++ session.ledger.history ∧
      (∀ call ∈ queries, call.isSize = true ∧ call.value = value) ∧
      Ruling.SettledBy ⟨value, session.registry, (session.classify value).1⟩ queries := by
  -- The formatter of the registry decides, and the outcome is put in front of what is known.
  obtain ⟨queries, made, about, settled⟩ :=
    Classifications.determine_settled session.registry session.inquiry value session.ledger
  simp only [classify, Classifications.classify, new]
  exact ⟨queries, trivial, made, about, settled⟩

/-- A console line changes nothing but the formatters and the ledger, and asks for no size. -/
theorem runConsole_frame (line : String) :
    ∃ registry ledger, (session.runConsole line).2 = { session with registry, ledger } ∧
      session.ledger.GrowsWithoutSize ledger := by
  -- The line sees neither what is known nor the arena, so only its calls matter.
  have grows : session.ledger.GrowsWithoutSize
      (Console.run line session.registry session.ledger).ledger := by
    apply Ledger.GrowsWithoutSize.of_history_eq
    simp only [Console.run]
    split
    · rename_i command _
      -- Of all commands only the reset touches the ledger, and it keeps the calls.
      cases command with
      | reset => exact Ledger.history_reset session.ledger
      | help | list | counters | sizeCalls | clear => rfl
      | delete name =>
        simp only [Console.execute]
        split <;> rfl
    · rfl
  simp only [runConsole]
  exact ⟨_, _, rfl, grows⟩

/-- Letting the program run on changes nothing but where the program is. -/
theorem proceed_frame (kind : Resumption) :
    ∃ replay, (session.proceed kind).2 = { session with replay } := by
  -- A failed move leaves everything, a successful one changes the place of the program.
  simp only [proceed]
  split
  · exact ⟨session.replay, rfl⟩
  · exact ⟨_, rfl⟩

/-- Asking for a summary changes nothing but the ledger, and asks for no size. -/
theorem summary_frame (classification : Classification) :
    ∃ ledger, (session.summary classification value).2 = { session with ledger } ∧
      session.ledger.GrowsWithoutSize ledger := by
  -- The native formatter is not asked; any other is asked once, and not for a size.
  simp only [summary]
  split
  · exact ⟨session.ledger, rfl, .of_history_eq rfl⟩
  · obtain ⟨answer, history⟩ := session.inquiry.history_summary classification.provider value
      session.ledger
    exact ⟨_, rfl, .of_call rfl history⟩

/-- A step about a value classifies it and adds nothing that bears on any classification. -/
theorem perform_of_subject {step : Step} (about : step.subject? = some value) :
    (session.perform step).known = (session.classify value).2.known ∧
      (session.classify value).2.ledger.GrowsWithoutSize (session.perform step).ledger := by
  -- After the classification a step asks for a summary, for children or for nothing.
  cases step with
  | classify other =>
    cases about
    exact ⟨rfl, .of_history_eq rfl⟩
  | describe other =>
    cases about
    obtain ⟨ledger, left, grows⟩ :=
      (session.classify value).2.summary_frame value (session.classify value).1
    simp only [perform, describe, left]
    exact ⟨trivial, grows⟩
  | serve slot other window =>
    cases about
    simp only [perform, serve]
    cases (session.classify value).2.arena.handle? slot with
    | none => exact ⟨rfl, .of_history_eq rfl⟩
    | some handle => exact ⟨rfl, (Handle.enumerate_frame handle _ _ _ _ _ _).2⟩
  | follow other key =>
    cases about
    exact ⟨rfl, .of_call rfl (Inquiry.history_child ..)⟩
  | openFrame _ | command _ | resumed | stopped _ | proceed _ => cases about

/-- A step about no value leaves what is known unless it ends the stop, and asks for no size. -/
theorem perform_of_no_subject {step : Step} (about : step.subject? = none)
    (stays : session.endsStop step = false) :
    (session.perform step).known = session.known ∧
      session.ledger.GrowsWithoutSize (session.perform step).ledger := by
  -- No such step classifies, and within a stop none forgets.
  cases step with
  | classify _ | describe _ | serve _ _ _ | follow _ _ => cases about
  | openFrame frame => exact ⟨rfl, .of_history_eq rfl⟩
  | command line =>
    obtain ⟨registry, ledger, left, grows⟩ := session.runConsole_frame line
    simp only [perform, left]
    exact ⟨trivial, grows⟩
  | resumed => cases stays
  | stopped reason =>
    rw [perform_stopped stays]
    exact ⟨rfl, .of_history_eq rfl⟩
  | proceed kind =>
    obtain ⟨replay, left⟩ := session.proceed_frame kind
    simp only [perform, left]
    exact ⟨trivial, .of_history_eq rfl⟩

end Session

/-- What is known of an identity, and the size queries made for it, follow from its first ruling. -/
def SettledFirst (known : Option Classification) (queries : List Call) : List Ruling → Prop
  | [] => known = none ∧ queries = []
  | first :: later =>
    known = some first.answer ∧ (∀ ruling ∈ later, ruling.answer = first.answer) ∧
      first.SettledBy queries

/-- A ruling that repeats what is known changes nothing. -/
theorem SettledFirst.repeated {classification : Classification} {queries : List Call}
    {rulings : List Ruling} (settled : SettledFirst (some classification) queries rulings)
    {again : Ruling} (same : again.answer = classification) :
    SettledFirst (some classification) queries (rulings ++ [again]) := by
  -- Something is known, so there is a first ruling already.
  cases rulings with
  | nil => exact absurd settled.1 (by simp)
  | cons first later =>
    obtain ⟨known, agree, settledBy⟩ := settled
    refine ⟨known, ?_, settledBy⟩
    intro ruling member
    rcases List.mem_append.mp member with earlier | last
    · exact agree ruling earlier
    · -- The last one repeats what the first one fixed.
      cases known
      rw [List.mem_singleton.mp last, same]

namespace Visit

/-- The rulings of a visit on one identity, oldest first. -/
def rulingsOn (visit : Visit) (id : ValueId) : List Ruling :=
  visit.rulings.filter fun ruling => ruling.value.id == id

/-- Every identity is settled by its first ruling, and the calls of the stop bear it out. -/
def Settled (visit : Visit) : Prop :=
  ∃ calls, visit.session.ledger.history = calls ++ visit.before ∧
    ∀ id, SettledFirst (visit.session.known.lookup id) (sizeQueries calls id) (visit.rulingsOn id)

/-- Nothing is settled of a stop of which nothing is known. -/
theorem settled_ofSession {session : Session} (none : session.known = []) :
    (ofSession session).Settled := by
  -- No call has been made since, and nothing has been ruled on.
  refine ⟨[], rfl, fun id => ?_⟩
  simp [SettledFirst, ofSession, rulingsOn, sizeQueries, none]

/-- Calls that ask for no size and rule on nothing leave everything settled. -/
theorem Settled.extend {visit : Visit} (settled : visit.Settled) {session : Session}
    {grants : List Grant} (same : session.known = visit.session.known)
    (grows : visit.session.ledger.GrowsWithoutSize session.ledger) :
    Settled ⟨session, visit.before, visit.rulings, grants⟩ := by
  -- The new calls are none of the queries that are counted.
  obtain ⟨calls, history, holds⟩ := settled
  obtain ⟨added, longer, other⟩ := grows
  refine ⟨added ++ calls, ?_, fun id => ?_⟩
  · rw [longer, history, List.append_assoc]
  · rw [sizeQueries_append, sizeQueries_eq_nil other, List.nil_append]
    simp only [same]
    exact holds id

/-- A classification leaves everything settled. -/
theorem Settled.classify {visit : Visit} (settled : visit.Settled) (value : Value) :
    Settled ⟨(visit.session.classify value).2, visit.before,
      visit.rulings ++ [⟨value, visit.session.registry, (visit.session.classify value).1⟩],
      visit.grants⟩ := by
  -- A classification looks up what is known before it asks.
  obtain ⟨calls, history, holds⟩ := settled
  cases known : visit.session.known.lookup value.id with
  | some classification =>
    -- A known value keeps its ruling, and no call is made.
    rw [visit.session.classify_of_known value known]
    refine ⟨calls, history, fun id => ?_⟩
    have here := holds id
    by_cases same : value.id = id
    · subst same
      rw [known] at here
      simpa [rulingsOn, known] using here.repeated rfl
    · simpa [rulingsOn, same] using here
  | none =>
    obtain ⟨queries, added, longer, about, settledBy⟩ :=
      visit.session.classify_of_new value known
    refine ⟨queries ++ calls, by simp only [longer, history, List.append_assoc], fun id => ?_⟩
    have here := holds id
    rw [sizeQueries_append]
    by_cases same : value.id = id
    · -- The first ruling on this identity is the new one, with exactly the calls made for it.
      subst same
      have own : sizeQueries queries value.id = queries := by
        apply List.filter_eq_self.mpr
        intro call member
        simp [(about call member).1, (about call member).2]
      have unruled : visit.rulingsOn value.id = [] := by
        rw [known] at here
        cases rulings : visit.rulingsOn value.id with
        | nil => rfl
        | cons first later =>
          rw [rulings] at here
          cases here.1
      rw [unruled, SettledFirst] at here
      rw [own, here.2, List.append_nil]
      simp only [rulingsOn] at unruled
      simpa [rulingsOn, unruled, SettledFirst, added] using settledBy
    · -- Every other identity is left as it was.
      have none : sizeQueries queries id = [] := by
        apply List.filter_eq_nil_iff.mpr
        intro call member
        simp [(about call member).2, same]
      have distinct : (id == value.id) = false := by simpa using Ne.symm same
      rw [none, List.nil_append]
      simpa [rulingsOn, same, added, List.lookup_cons, distinct] using here

/-- Every step leaves everything settled. -/
theorem Settled.perform {visit : Visit} (step : Session.Step) (settled : visit.Settled) :
    (visit.perform step).Settled := by
  -- At the end of a stop the record starts anew; within it a step classifies at most once.
  cases ends : visit.session.endsStop step with
  | true =>
    simp only [Visit.perform, ends, if_true]
    obtain ⟨stop, left⟩ := visit.session.perform_of_end ends
    rw [left]
    exact settled_ofSession rfl
  | false =>
    simp only [Visit.perform, ends, Bool.false_eq_true, if_false]
    cases about : step.subject? with
    | some value =>
      -- The step rules as its classification does, and its later calls ask for no size.
      obtain ⟨known, grows⟩ := visit.session.perform_of_subject value about
      simp only [Session.rulings, about]
      exact (settled.classify value).extend known grows
    | none =>
      obtain ⟨known, grows⟩ := visit.session.perform_of_no_subject about ends
      simp only [Session.rulings, about, List.append_nil]
      exact settled.extend known grows

end Visit

end Inspection
