import Inspection.Proofs.Children.History
import Inspection.Proofs.Session.Handles

/-! A stop begins with nothing known and without handles, and its end moves the generation once. -/

namespace Inspection

namespace Session

variable {session : Session}

/-- Nothing is known of the stop, and there is no handle. -/
structure Blank (session : Session) : Prop where
  known : session.known = []
  handles : session.arena.handles = #[]
  byValue : session.arena.byValue = []
  byFrame : session.arena.byFrame = []

/-- Forgetting a stop leaves nothing of it. -/
theorem blank_invalidate (session : Session) : session.invalidate.Blank := ⟨rfl, rfl, rfl, rfl⟩

/-- Why a session has stopped says nothing about what it knows. -/
theorem Blank.ofStop (blank : session.Blank) (stop : Option StopReason) :
    Blank { session with stop } :=
  ⟨blank.known, blank.handles, blank.byValue, blank.byFrame⟩

/-- Where a program has come to says nothing about what is known. -/
theorem Blank.ofReplay (blank : session.Blank) (replay : Replay) :
    Blank { session with replay } :=
  ⟨blank.known, blank.handles, blank.byValue, blank.byFrame⟩

/-- A step that classifies a value has handed something out. -/
theorem perform_used {step : Step} {value : Value} (about : step.subject? = some value) :
    (session.perform step).fresh = false := by
  -- The classification itself counts, whatever comes after it.
  cases step with
  | classify _ | follow _ _ => rfl
  | describe other =>
    obtain ⟨_, _, left⟩ := session.describe_eq other
    simp only [perform, left]
    rfl
  | serve slot other window =>
    simp only [perform, serve]
    split <;> rfl
  | openFrame _ | command _ | resumed | stopped _ | proceed _ => cases about

/-- A step within a stop leaves a session fresh exactly if it adds nothing to the record. -/
theorem perform_fresh {step : Step} (stays : session.endsStop step = false) :
    (session.perform step).fresh = true ↔
      session.fresh = true ∧ session.rulings step = [] ∧ session.grants step = [] := by
  cases about : step.subject? with
  -- A step about a value rules on it, and leaves a session that is not fresh.
  | some value => simp [perform_used about, rulings, about]
  | none =>
    have unruled : session.rulings step = [] := by simp only [rulings, about]
    rw [unruled]
    -- Of the other steps only the opening of a frame hands something out.
    cases step with
    | classify _ | describe _ | serve _ _ _ | follow _ _ => cases about
    | openFrame frame => simp [perform, openFrame, grants]
    | command line =>
      obtain ⟨registry, ledger, left, _⟩ := session.runConsole_frame line
      simp [perform, left, grants]
    | resumed => cases stays
    | stopped reason => simp [perform_stopped stays, grants]
    | proceed kind =>
      obtain ⟨replay, left⟩ := session.proceed_frame kind
      simp [perform, left, grants]

/-- A step after which a session is still fresh leaves it blank. -/
theorem Blank.perform (blank : session.Blank) {step : Step}
    (stays : session.endsStop step = false) (fresh : (session.perform step).fresh = true) :
    (session.perform step).Blank := by
  -- What is left are the steps that hand nothing out, and they leave what is known alone.
  cases step with
  | classify _ | describe _ | serve _ _ _ | follow _ _ =>
    rw [perform_used rfl] at fresh
    cases fresh
  | openFrame frame => cases fresh
  | command line =>
    obtain ⟨registry, ledger, left, _⟩ := session.runConsole_frame line
    simp only [Session.perform, left]
    exact ⟨blank.known, blank.handles, blank.byValue, blank.byFrame⟩
  | resumed => cases stays
  | stopped reason =>
    rw [perform_stopped stays]
    exact blank.ofStop _
  | proceed kind =>
    obtain ⟨replay, left⟩ := session.proceed_frame kind
    simp only [Session.perform, left]
    exact blank.ofReplay replay

/-- Letting the program run forgets the stop once, whether or not the program can run. -/
theorem resume_forgets (session : Session) (kind : Resumption) :
    (session.resume kind).2.known = [] ∧
      (session.resume kind).2.arena = session.arena.invalidate := by
  -- The stop that is reached is announced to a session that has forgotten the old one already.
  simp only [resume]
  split
  · exact ⟨rfl, rfl⟩
  · -- Running to a stop or to the end forgets no second time.
    split <;> exact ⟨rfl, rfl⟩

end Session

namespace Visit

/-- A visit is fresh exactly while nothing is on its record, and then nothing is known. -/
structure Clean (visit : Visit) : Prop where
  formed : visit.session.arena.WellFormed
  fresh : visit.session.fresh = true ↔ visit.rulings = [] ∧ visit.grants = []
  blank : visit.session.fresh = true → visit.session.Blank
  inCycle : visit.session.arena.InCycle

/-- Every step leaves a visit clean. -/
theorem Clean.perform {visit : Visit} (clean : visit.Clean) (step : Session.Step) :
    (visit.perform step).Clean := by
  cases ends : visit.session.endsStop step with
  | true =>
    -- The record starts anew with a session that has forgotten the stop.
    obtain ⟨stop, left⟩ := visit.session.perform_of_end ends
    simp only [Visit.perform, ends, if_true, left]
    refine ⟨Arena.wellFormed_of_empty, ?_, fun _ => ?_, clean.inCycle.undergo .invalidate⟩
    · exact ⟨fun _ => ⟨rfl, rfl⟩, fun _ => rfl⟩
    · exact visit.session.blank_invalidate.ofStop stop
  | false =>
    -- Within a stop the record grows by what the step has handed out, which keeps a visit fresh
    -- only if it is nothing.
    obtain ⟨formed, grows⟩ := Session.perform_grows clean.formed ends
    simp only [Visit.perform, ends, Bool.false_eq_true, if_false]
    refine ⟨formed, ?_, fun fresh => ?_, ?_⟩
    · simp only [Session.perform_fresh ends, clean.fresh, List.append_eq_nil_iff]
      exact and_and_and_comm
    · exact (clean.blank ((Session.perform_fresh ends).mp fresh).1).perform ends fresh
    · simp only [Arena.InCycle, grows.arena.generation]
      exact clean.inCycle

/-- A new visit is clean, and so it is after any requests. -/
theorem clean_askAll (replay : Replay) (registry : Registry) (options : SessionOptions)
    (requests : List (Session.Request Int64)) :
    ((start replay registry options).askAll requests).Clean := by
  -- Nothing is on the record of a new visit, and no step changes that it is clean.
  apply askAll_invariant fun visit step (clean : visit.Clean) => clean.perform step
  exact ⟨Arena.wellFormed_of_empty, ⟨fun _ => ⟨rfl, rfl⟩, fun _ => rfl⟩,
    fun _ => ⟨rfl, rfl, rfl, rfl⟩, Arena.inCycle_empty⟩

/--
Every stop begins clean, and the end of a stop moves the generation once.

The visit follows the session through the requests.
A fresh session knows nothing and has no handles, and so has one that has just stopped or resumed.
Resuming moves the generation one further on its cycle, whether or not the program could run.
News of a stop does so exactly if something has been classified or handed out since the last time.
-/
theorem boundaries_clean (replay : Replay) (registry : Registry) (options : SessionOptions)
    (requests : List (Session.Request Int64)) :
    let visit := (start replay registry options).askAll requests
    let session := visit.session
    let further := session.generation.toNat % 2047 + 1
    session = (Session.start replay registry options).after requests ∧
      (1 ≤ session.generation.toNat ∧ session.generation.toNat ≤ 2047) ∧
      (session.fresh = true → session.Blank) ∧
      (∀ kind, (session.resume kind).2.Blank ∧
        (session.resume kind).2.generation.toNat = further) ∧
      (session.resumed.Blank ∧ session.resumed.generation.toNat = further) ∧
      ∀ reason, (session.stopped reason).Blank ∧
        (session.stopped reason).generation.toNat =
          if visit.rulings = [] ∧ visit.grants = [] then session.generation.toNat else further := by
  intro visit session further
  have clean : visit.Clean := clean_askAll replay registry options requests
  have moved : session.arena.invalidate.generation.toNat = further :=
    Reference.nextGeneration_toNat clean.inCycle.2
  refine ⟨(start replay registry options).askAll_session requests, clean.inCycle, clean.blank,
    fun kind => ?_, ?_, fun reason => ?_⟩
  · -- Resuming empties the arena, and with it the look-ups.
    obtain ⟨known, arena⟩ := session.resume_forgets kind
    simp only [Session.generation, arena]
    exact ⟨⟨known, by rw [arena]; rfl, by rw [arena]; rfl, by rw [arena]; rfl⟩, moved⟩
  · -- So does news that the program runs.
    exact ⟨session.blank_invalidate.ofStop none, moved⟩
  · -- News of a stop forgets the old one only if anything is on its record.
    simp only [← clean.fresh, Session.stopped]
    split
    · rename_i fresh
      exact ⟨(clean.blank fresh).ofStop _, rfl⟩
    · exact ⟨session.blank_invalidate.ofStop _, moved⟩

end Visit

end Inspection
