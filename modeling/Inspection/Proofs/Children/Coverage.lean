import Inspection.Proofs.Children.Demand
import Inspection.Proofs.Children.Run
import Inspection.Proofs.Children.Supply

/-! A handle is complete exactly when windows have covered every child there is, and for good. -/

namespace Inspection

namespace ChildAnswers

/-- The first position without a child. -/
def EndsAt (answers : ChildAnswers) (bound : Nat) : Prop :=
  answers bound = .ok none ∧ ∀ index < bound, answers index ≠ .ok none

/-- The children end at one position. -/
theorem EndsAt.unique {answers : ChildAnswers} {bound other : Nat} (ends : answers.EndsAt bound)
    (also : answers.EndsAt other) : bound = other := by
  -- Neither can lie before the other.
  rcases Nat.lt_trichotomy bound other with before | same | after
  · exact absurd ends.1 (also.2 bound before)
  · exact same
  · exact absurd also.1 (ends.2 other after)

/-- The children in a list end with the list. -/
theorem ofList_endsAt (values : List Value) : (ofList values).EndsAt values.length := by
  -- Past its length a list has nothing, and before it a child in every position.
  refine ⟨congrArg Except.ok (List.getElem?_eq_none (Nat.le_refl _)), fun index before => ?_⟩
  rw [ofList, List.getElem?_eq_getElem before]
  intro empty
  cases empty

end ChildAnswers

namespace Handle

variable {handle : Handle} {kind : ChildrenKind} {answers : ChildAnswers}

/-- The positions counted as fetched are those of the remembered children, each once. -/
structure Tidy (handle : Handle) : Prop where
  distinct : handle.fetched.Nodup
  keys : ∀ index, index ∈ handle.fetched ↔ ∃ child, handle.child? index = some child

/-- A fresh handle has fetched nothing. -/
theorem tidy_fresh (target : HandleTarget) : (fresh target).Tidy :=
  ⟨.nil, fun _ => ⟨fun member => (nomatch member), fun ⟨_, known⟩ => (nomatch known)⟩⟩

/-- What is learned from an answer is counted once. -/
theorem Tidy.learn (tidy : handle.Tidy) (index : Nat)
    (answer : Except FormatterError (Option Value)) : (handle.learn index answer).Tidy := by
  rcases answer with error | _ | child
  · -- Neither an error nor an empty answer is remembered.
    exact tidy
  · exact tidy
  · -- The position is counted unless it has been, and its child is remembered.
    refine ⟨?_, fun other => ?_⟩
    · simp only [Handle.learn, remember]
      split
      · exact tidy.distinct
      · rename_i absent
        exact List.nodup_cons.mpr ⟨absent, tidy.distinct⟩
    · rw [Handle.learn, child?_remember]
      by_cases same : other = index
      · simp only [remember, same, if_true]
        split <;> simp [*]
      · simp only [remember, if_neg same, ← tidy.keys other]
        split <;> simp [same]

/-- Fetches leave a handle tidy. -/
theorem tidy_maintained (inquiry : Inquiry) (provider : Provider) (value : Value) :
    Maintained inquiry provider value fun handle _ => handle.Tidy := by
  -- A remembered child is not learned again.
  have fetched : ∀ index (handle : Handle) (ledger : Ledger), handle.Tidy →
      (handle.fetch inquiry provider value index ledger).handle.Tidy := by
    intro index handle ledger tidy
    cases found : handle.child? index with
    | some child => rwa [fetch_of_remembered inquiry provider value ledger found]
    | none =>
      rw [fetch_of_unknown inquiry provider value ledger found]
      exact tidy.learn index _
  refine ⟨fetched, fun index handle ledger tidy _ => ?_⟩
  -- The end is kept beside what has been fetched.
  have kept := fetched index handle ledger tidy
  exact ⟨kept.distinct, kept.keys⟩

/-- Recording a kind leaves a handle tidy. -/
theorem Tidy.markClassified (tidy : handle.Tidy) (kind : ChildrenKind) :
    (handle.markClassified kind).Tidy := by
  -- Only the state can differ.
  rcases markClassified_eq handle kind with same | same <;> rw [same]
  · exact tidy
  · exact ⟨tidy.distinct, tidy.keys⟩

/-- As many positions below a bound as there can be have been fetched only if all have. -/
theorem Tidy.le_fetchedBelow_iff (tidy : handle.Tidy) (bound : Nat) :
    bound ≤ handle.fetchedBelow bound ↔
      ∀ index < bound, ∃ child, handle.child? index = some child := by
  have distinct : (handle.fetched.filter (· < bound)).Nodup := tidy.distinct.filter _
  constructor
  · intro full index below
    -- A position that is missing would be one more below the bound.
    apply Classical.byContradiction
    intro unknown
    have absent : index ∉ handle.fetched.filter (· < bound) := fun member =>
      unknown ((tidy.keys index).mp (List.mem_filter.mp member).1)
    have within : index :: handle.fetched.filter (· < bound) ⊆ List.range bound := by
      intro other member
      rcases List.mem_cons.mp member with same | fetched
      · exact List.mem_range.mpr (same ▸ below)
      · exact List.mem_range.mpr (of_decide_eq_true (List.mem_filter.mp fetched).2)
    have counted := (List.nodup_cons.mpr ⟨absent, distinct⟩).length_le_of_subset within
    rw [List.length_cons, List.length_range] at counted
    exact absurd full (Nat.not_le_of_lt counted)
  · intro known
    -- Conversely every position below the bound is among the fetched ones.
    have covered : List.range bound ⊆ handle.fetched.filter (· < bound) := by
      intro index member
      have below := List.mem_range.mp member
      exact List.mem_filter.mpr ⟨(tidy.keys index).mpr (known index below), decide_eq_true below⟩
    have counted := List.nodup_range.length_le_of_subset covered
    rwa [List.length_range] at counted

/-- The number of children as far as it is known: announced by a size, or found as the end. -/
def bound? (handle : Handle) : ChildrenKind → Option Nat
  | .indexed count => some count
  | .named | .undeclared => handle.namedEnd

/-- Without a size the number of children is known where they have been found to end. -/
theorem bound?_of_unsized (unsized : ∀ count, kind ≠ .indexed count) :
    handle.bound? kind = handle.namedEnd := by
  -- Only a size announces a number.
  cases kind with
  | indexed count => exact absurd rfl (unsized count)
  | named | undeclared => rfl

/-- A complete handle without a size tells where its children have been found to end. -/
theorem knownNamedCount_of_complete (unsized : ∀ count, kind ≠ .indexed count)
    (complete : handle.state = .enumerated kind .complete) :
    handle.knownNamedCount = handle.namedEnd := by
  -- A handle with a size tells no count of named children.
  cases kind with
  | indexed count => exact absurd rfl (unsized count)
  | named | undeclared => simp only [knownNamedCount, complete]

/-- A handle passes for complete exactly when all children below a known bound are remembered. -/
theorem Tidy.isComplete_iff (tidy : handle.Tidy) (kind : ChildrenKind) :
    handle.isComplete kind = true ↔ ∃ bound, handle.bound? kind = some bound ∧
      ∀ index < bound, ∃ child, handle.child? index = some child := by
  -- The test compares the positions fetched below the bound with the bound.
  cases kind with
  | indexed count => simp [isComplete, bound?, tidy.le_fetchedBelow_iff]
  | named | undeclared =>
    cases ended : handle.namedEnd <;>
      simp [isComplete, bound?, ended, tidy.le_fetchedBelow_iff]

/-- What a handle knows once the children in some positions have been asked for. -/
structure Explored (kind : ChildrenKind) (answers : ChildAnswers) (seen : List Nat)
    (handle : Handle) : Prop where
  children : ∀ index child, handle.child? index = some child ↔
    index ∈ seen ∧ answers index = .ok (some child)
  ended : ∀ bound, handle.namedEnd = some bound →
    bound ∈ seen ∧ kind.outcome? bound (answers bound) = none
  stops : ∀ index ∈ seen, kind.outcome? index (answers index) = none →
    handle.stopsAt kind index = true

/-- Of a fresh handle nothing has been explored. -/
theorem explored_fresh (target : HandleTarget) : (fresh target).Explored kind answers [] :=
  ⟨by simp [fresh, child?], nofun, nofun⟩

/-- The state of a handle says nothing about what has been explored. -/
theorem Explored.ofState {seen : List Nat} (explored : handle.Explored kind answers seen)
    (state : HandleState) : Explored kind answers seen { handle with state } := by
  refine ⟨explored.children, explored.ended, fun index member nothing => ?_⟩
  exact (stopsAt_congr rfl kind index).trans (explored.stops index member nothing)

/-- Recording a kind explores nothing. -/
theorem Explored.markClassified {seen : List Nat} (explored : handle.Explored kind answers seen) :
    (handle.markClassified kind).Explored kind answers seen := by
  -- At most the state differs.
  rcases markClassified_eq handle kind with same | same <;> rw [same]
  · exact explored
  · exact explored.ofState _

/-- Where serving stops nothing is to be had, nor behind it. -/
theorem Explored.nothing_of_stops {seen : List Nat} (explored : handle.Explored kind answers seen)
    (ends : answers.EndForGood) {index later : Nat} (stops : handle.stopsAt kind index = true)
    (behind : index ≤ later) : answers later = .ok none := by
  -- The remembered end was found empty, and lies before the position.
  obtain ⟨_, bound, before, ended⟩ := stopsAt_iff.mp stops
  have empty := (ChildrenKind.outcome?_eq_none_iff.mp (explored.ended bound ended).2).2
  exact ends bound later (Nat.le_trans before behind) empty

/-- Where serving stops, what lies behind counts as explored. -/
theorem Explored.beyond {seen : List Nat} (explored : handle.Explored kind answers seen)
    (ends : answers.EndForGood) {index : Nat} (stops : handle.stopsAt kind index = true)
    (remaining : Nat) : handle.Explored kind answers (seen ++ List.range' index remaining) := by
  have behind : ∀ later ∈ List.range' index remaining, index ≤ later := fun later member =>
    (List.mem_range'_1.mp member).1
  refine ⟨fun later child => ?_, fun bound ended => ?_, fun later member nothing => ?_⟩
  · -- No child can be had in the added positions, and none is remembered there.
    rw [explored.children, List.mem_append]
    constructor
    · exact fun ⟨member, found⟩ => ⟨.inl member, found⟩
    · rintro ⟨old | new, found⟩
      · exact ⟨old, found⟩
      · rw [explored.nothing_of_stops ends stops (behind later new)] at found
        cases found
  · -- The end stays where it is.
    obtain ⟨member, nothing⟩ := explored.ended bound ended
    exact ⟨List.mem_append_left _ member, nothing⟩
  · -- Serving stops in the added positions as it does at the first of them.
    rcases List.mem_append.mp member with old | new
    · exact explored.stops later old nothing
    · exact stopsAt_mono stops (behind later new)

section run

variable {inquiry : Inquiry} {provider : Provider} {value : Value}

/-- A fetch answers as the provider would, and explores its own position. -/
theorem Explored.fetch {seen : List Nat} (explored : handle.Explored kind answers seen)
    (answered : inquiry.Answers provider value answers) (index : Nat) (ledger : Ledger) :
    (handle.fetch inquiry provider value index ledger).answer = answers index ∧
      ∀ other child,
        (handle.fetch inquiry provider value index ledger).handle.child? other = some child ↔
          other ∈ seen ++ [index] ∧ answers other = .ok (some child) := by
  -- What is remembered is what the provider would answer.
  have quotes : handle.Quotes answers := fun other child known =>
    ((explored.children other child).mp known).2
  have answer := (fetch_quotes answered quotes index ledger).1
  refine ⟨answer, fun other child => ?_⟩
  -- In its own position the answer decides, and elsewhere what was known before.
  by_cases same : other = index
  · subst same
    rw [child?_fetch_self, answer]
    simp
  · rw [child?_fetch_of_ne same, explored.children]
    simp [same]

/-- Serving a run explores its positions. -/
theorem serveRun_explored (answered : inquiry.Answers provider value answers)
    (ends : answers.EndForGood) (remaining index : Nat) {seen : List Nat} (ledger : Ledger)
    (explored : handle.Explored kind answers seen) :
    (serveRun inquiry provider value kind remaining index handle ledger).handle.Explored kind
      answers (seen ++ List.range' index remaining) := by
  -- The induction is on the run, with its first position added to those explored.
  induction remaining, index, handle, ledger using serveRun_induct inquiry provider value kind
    generalizing seen with
  | zero =>
    rw [serveRun_zero, List.range'_zero, List.append_nil]
    exact explored
  | stopped further index handle ledger stops =>
    -- Nothing is asked for any more, and nothing is to be had behind.
    rw [serveRun_of_stops stops]
    exact explored.beyond ends stops _
  | ended further index handle ledger onward shown =>
    -- The end is marked here, before any other that was known.
    obtain ⟨answer, children⟩ := explored.fetch answered index ledger
    rw [List.range'_succ, List.append_cons, serveRun_of_end onward shown]
    have marked := stopsAt_markEnd shown
      (handle.fetch inquiry provider value index ledger).handle
    rw [answer] at shown
    have here : Explored kind answers (seen ++ [index])
        { (handle.fetch inquiry provider value index ledger).handle with
          namedEnd := some index } := by
      refine ⟨children, fun bound ended => ?_, fun other member nothing => ?_⟩
      · cases ended
        exact ⟨List.mem_append_right _ List.mem_cons_self, shown⟩
      · apply stopsAt_mono marked
        -- An older end lies behind this one, for serving has not stopped before it.
        rcases List.mem_append.mp member with old | new
        · apply Nat.le_of_not_lt
          intro before
          rw [stopsAt_mono (explored.stops other old nothing) (Nat.le_of_lt before)] at onward
          cases onward
        · exact Nat.le_of_eq (List.mem_singleton.mp new).symm
    exact here.beyond ends (stopsAt_mono marked (Nat.le_succ index)) further
  | outcome further index handle ledger outcome onward shown ih =>
    -- No end is moved, and the position is not empty.
    obtain ⟨answer, children⟩ := explored.fetch answered index ledger
    rw [List.range'_succ, List.append_cons, serveRun_of_outcome onward shown]
    rw [answer] at shown
    refine ih ⟨children, ?_, ?_⟩
    · intro bound ended
      rw [fetch_namedEnd] at ended
      obtain ⟨member, nothing⟩ := explored.ended bound ended
      exact ⟨List.mem_append_left _ member, nothing⟩
    · intro other member nothing
      rw [stopsAt_congr (fetch_namedEnd handle index ledger)]
      rcases List.mem_append.mp member with old | new
      · exact explored.stops other old nothing
      · rw [List.mem_singleton.mp new, shown] at nothing
        cases nothing

/-- Where a run moves the end, it has asked for the position that it takes for the end. -/
theorem serveRun_probes (kind : ChildrenKind) (remaining index : Nat) (handle : Handle)
    (ledger : Ledger) :
    ∃ asked, ledger.Asked asked
        (serveRun inquiry provider value kind remaining index handle ledger).ledger ∧
      ∀ bound,
        (serveRun inquiry provider value kind remaining index handle ledger).handle.namedEnd =
            some bound →
          handle.namedEnd = some bound ∨
            ∃ call ∈ asked, call.key? = some (.position bound) := by
  -- The induction is on the run; each fetch adds its own request, if it makes one.
  induction remaining, index, handle, ledger using serveRun_induct inquiry provider value kind with
  | zero index handle ledger =>
    rw [serveRun_zero]
    exact ⟨[], .nothing ledger, fun _ ended => .inl ended⟩
  | stopped further index handle ledger stops =>
    rw [serveRun_of_stops stops]
    exact ⟨[], .nothing ledger, fun _ ended => .inl ended⟩
  | ended further index handle ledger onward shown =>
    rw [serveRun_of_end onward shown]
    cases found : handle.child? index with
    | some child =>
      -- A remembered child is an outcome.
      rw [fetch_of_remembered inquiry provider value ledger found] at shown
      cases shown
    | none =>
      -- The position was unknown, so it has been asked for.
      rw [fetch_of_unknown inquiry provider value ledger found]
      refine ⟨_, inquiry.child_asked provider value ledger (.position index), ?_⟩
      intro bound ended
      cases ended
      exact .inr ⟨_, List.mem_cons_self, rfl⟩
  | outcome further index handle ledger outcome onward shown ih =>
    rw [serveRun_of_outcome onward shown]
    obtain ⟨asked, made, probed⟩ := ih
    rw [fetch_namedEnd] at probed
    cases found : handle.child? index with
    | some child =>
      rw [fetch_of_remembered inquiry provider value ledger found] at made probed ⊢
      exact ⟨asked, made, probed⟩
    | none =>
      -- The request of this fetch stands before those of the rest.
      rw [fetch_of_unknown inquiry provider value ledger found] at made probed ⊢
      refine ⟨_, (inquiry.child_asked provider value ledger (.position index)).trans made, ?_⟩
      intro bound ended
      rcases probed bound ended with before | ⟨call, member, key⟩
      · exact .inl before
      · exact .inr ⟨call, List.mem_append_right _ member, key⟩

variable (inquiry provider value) in
/-- Where every position is remembered or lies behind the end, a run leaves everything alone. -/
theorem serveRun_of_remembered {remaining index : Nat} (ledger : Ledger)
    (known : ∀ position ∈ List.range' index remaining,
      handle.stopsAt kind position = true ∨ ∃ child, handle.child? position = some child) :
    (serveRun inquiry provider value kind remaining index handle ledger).handle = handle ∧
      (serveRun inquiry provider value kind remaining index handle ledger).ledger = ledger := by
  -- The induction is on the positions left, from the same handle and ledger each time.
  induction remaining generalizing index with
  | zero =>
    rw [serveRun_zero]
    exact ⟨rfl, rfl⟩
  | succ further ih =>
    obtain ⟨here, later⟩ := List.forall_mem_cons.mp (List.range'_succ ▸ known)
    rcases here with stops | ⟨child, found⟩
    · rw [serveRun_of_stops stops]
      exact ⟨rfl, rfl⟩
    · -- Even a remembered child is not reached if the end lies before it.
      cases stops : handle.stopsAt kind index with
      | true =>
        rw [serveRun_of_stops stops]
        exact ⟨rfl, rfl⟩
      | false =>
        have fetched := fetch_of_remembered inquiry provider value ledger found
        have shown : kind.outcome? index
            (handle.fetch inquiry provider value index ledger).answer = some (.child child) := by
          rw [fetched]
          rfl
        rw [serveRun_of_outcome stops shown, fetched]
        exact ih later

end run

/-- The positions that some pages cover; each page is a window with the limit that it had. -/
def covered (pages : List (Window × Nat)) (kind : ChildrenKind) : List Nat :=
  pages.flatMap fun page => page.1.positions kind page.2

/-- Whether some calls have asked for the child in a position. -/
def Probed (calls : List Call) (index : Nat) : Prop :=
  ∃ call ∈ calls, call.key? = some (.position index)

/-- The handles that pages of one kind lead to from a fresh one, with the children asked for. -/
inductive Served (value : Value) (answers : ChildAnswers) (kind : ChildrenKind) :
    List (Window × Nat) → List Call → Handle → Prop where
  | fresh : Served value answers kind [] [] (.fresh (.value value))
  /-- The kind may be recorded before and between pages. -/
  | marked {pages : List (Window × Nat)} {calls : List Call} {handle : Handle}
      (served : Served value answers kind pages calls handle) :
      Served value answers kind pages calls (handle.markClassified kind)
  /-- A page is served at any time by a provider that gives these answers. -/
  | page {pages : List (Window × Nat)} {calls : List Call} {handle : Handle}
      (served : Served value answers kind pages calls handle) {inquiry : Inquiry}
      {provider : Provider} (answered : inquiry.Answers provider value answers) (window : Window)
      (maxNamed : Nat) {ledger : Ledger} {asked : List Call}
      (made : ledger.Asked asked
        (handle.enumerate kind provider window maxNamed inquiry ledger).ledger) :
      Served value answers kind (pages ++ [(window, maxNamed)]) (calls ++ asked)
        (handle.enumerate kind provider window maxNamed inquiry ledger).handle

namespace Served

variable {value : Value} {pages : List (Window × Nat)} {calls : List Call}

/-- Pages keep the target of a handle. -/
theorem target (served : Served value answers kind pages calls handle) :
    handle.target = .value value := by
  -- Neither recording a kind nor serving a page retargets a handle.
  induction served with
  | fresh => rfl
  | marked _ ih => exact (markClassified_target _ kind).trans ih
  | page _ _ window maxNamed _ ih => exact (enumerate_frame ..).1.trans ih

/-- Pages leave a handle tidy. -/
theorem tidy (served : Served value answers kind pages calls handle) : handle.Tidy := by
  -- Each page leaves its handle as fetches and the recorded kind would.
  induction served with
  | fresh => exact tidy_fresh _
  | marked _ ih => exact ih.markClassified kind
  | page before answered window maxNamed made ih =>
    obtain ⟨left, tidy, same⟩ := enumerate_maintained (tidy_maintained _ _ value) before.target kind
      window maxNamed (ih.markClassified kind)
    -- The record of the window is all that differs from what was maintained.
    rw [same]
    exact ⟨tidy.distinct, tidy.keys⟩

/-- Pages explore the positions that they cover. -/
theorem explored (served : Served value answers kind pages calls handle)
    (ends : answers.EndForGood) : handle.Explored kind answers (covered pages kind) := by
  -- Each page is a run of positions, explored from what the earlier pages have left.
  induction served with
  | fresh => exact explored_fresh _
  | marked _ ih => exact ih.markClassified
  | page before answered window maxNamed made ih =>
    rw [enumerate_of_value before.target, covered, List.flatMap_append, List.flatMap_singleton,
      Window.positions_eq_run]
    exact (serveRun_explored answered ends _ _ _ ih.markClassified).ofState _

/-- Only covered positions are asked for, and among them the one that is taken for the end. -/
theorem probed (served : Served value answers kind pages calls handle) :
    (∀ index, Probed calls index → index ∈ covered pages kind) ∧
      ∀ bound, handle.namedEnd = some bound → Probed calls bound := by
  -- The requests of each page are added to those of the earlier ones.
  induction served with
  | fresh => exact ⟨fun _ ⟨_, member, _⟩ => (nomatch member), fun _ ended => (nomatch ended)⟩
  | marked _ ih =>
    rw [markClassified_namedEnd]
    exact ih
  | page before answered window maxNamed made ih =>
    obtain ⟨covers, probes⟩ := ih
    -- The requests of the page are for some of its positions.
    obtain ⟨demanded, madeAlso, indexes, within, _, matched⟩ :=
      enumerate_demands before.target kind window maxNamed _
    rw [← made.unique madeAlso] at matched
    constructor
    · rintro index ⟨call, member, key⟩
      rw [covered, List.flatMap_append, List.flatMap_singleton, List.mem_append]
      rcases List.mem_append.mp member with old | new
      · exact .inl (covers index ⟨call, old, key⟩)
      · have keyed := List.mem_map_of_mem (f := Call.key?) new
        rw [Inquiry.requests_keys matched, key] at keyed
        obtain ⟨position, among, same⟩ := List.mem_map.mp keyed
        cases same
        exact .inr (within.subset among)
    · -- An end that this page has not moved was asked for by an earlier one.
      intro bound ended
      rw [enumerate_of_value before.target] at ended made
      obtain ⟨asked, madeToo, moved⟩ := serveRun_probes kind _ _ _ _
      rcases moved bound ended with earlier | ⟨call, member, key⟩
      · rw [markClassified_namedEnd] at earlier
        obtain ⟨call, member, key⟩ := probes bound earlier
        exact ⟨call, List.mem_append_left _ member, key⟩
      · rw [made.unique madeToo]
        exact ⟨call, List.mem_append_right _ member, key⟩

/-- The last page decides what is recorded of a handle. -/
theorem state (served : Served value answers kind pages calls handle) (begun : pages ≠ []) :
    handle.state =
      .enumerated kind (if handle.isComplete kind then .complete else .incomplete) := by
  -- A page records what the test for completeness says after it.
  induction served with
  | fresh => exact absurd rfl begun
  | marked _ ih =>
    -- What an enumeration has found out is not overwritten.
    rw [markClassified_of_resolved (by rw [ih begun]; exact nofun)]
    exact ih begun
  | page before answered window maxNamed made ih =>
    rw [enumerate_of_value before.target]
    cases kind <;> rfl

/-- After a page a handle passes for complete exactly if the test for it holds. -/
theorem complete_iff_isComplete (served : Served value answers kind pages calls handle)
    (begun : pages ≠ []) :
    handle.state = .enumerated kind .complete ↔ handle.isComplete kind = true := by
  rw [served.state begun]
  cases handle.isComplete kind <;> simp

/-- After a page a handle is complete exactly if every child below a known bound is there. -/
theorem complete_iff (served : Served value answers kind pages calls handle) (begun : pages ≠ [])
    (ends : answers.EndForGood) :
    handle.state = .enumerated kind .complete ↔ ∃ bound, handle.bound? kind = some bound ∧
      ∀ index < bound, index ∈ covered pages kind ∧
        ∃ child, answers index = .ok (some child) := by
  -- What is remembered is what was explored.
  simp only [served.complete_iff_isComplete begun, served.tidy.isComplete_iff,
    (served.explored ends).children, exists_and_left]

/-- Where there is a child before it, the position that is taken for the end is the true one. -/
theorem endsAt_of_namedEnd (served : Served value answers kind pages calls handle)
    (ends : answers.EndForGood) {bound : Nat} (ended : handle.namedEnd = some bound)
    (given : ∀ index < bound, ∃ child, answers index = .ok (some child)) :
    answers.EndsAt bound := by
  -- The remembered end was found empty, and no position before it is.
  have nothing := ((served.explored ends).ended bound ended).2
  refine ⟨(ChildrenKind.outcome?_eq_none_iff.mp nothing).2, fun index before => ?_⟩
  obtain ⟨child, found⟩ := given index before
  rw [found]
  exact nofun

/-- Without a size the true end is taken for the end as soon as it is covered. -/
theorem namedEnd_of_endsAt (served : Served value answers kind pages calls handle)
    (ends : answers.EndForGood) (unsized : ∀ count, kind ≠ .indexed count) {bound : Nat}
    (last : answers.EndsAt bound) (member : bound ∈ covered pages kind) :
    handle.namedEnd = some bound := by
  have explored := served.explored ends
  obtain ⟨nothing, first⟩ := last
  -- Serving stops before this position, and no earlier one can be the end.
  have stops := explored.stops bound member
    (ChildrenKind.outcome?_eq_none_iff.mpr ⟨unsized, nothing⟩)
  obtain ⟨_, other, before, ended⟩ := stopsAt_iff.mp stops
  have empty := (ChildrenKind.outcome?_eq_none_iff.mp (explored.ended other ended).2).2
  rcases Nat.lt_or_eq_of_le before with earlier | same
  · exact absurd empty (first other earlier)
  · rwa [same] at ended

/-- Without a size a handle is complete once all children and their end have been covered. -/
theorem complete_iff_of_unsized (served : Served value answers kind pages calls handle)
    (begun : pages ≠ []) (ends : answers.EndForGood) (unsized : ∀ count, kind ≠ .indexed count) :
    (handle.state = .enumerated kind .complete ↔ ∃ bound, answers.EndsAt bound ∧
      (∀ index < bound, index ∈ covered pages kind ∧
        ∃ child, answers index = .ok (some child)) ∧ bound ∈ covered pages kind) ∧
    ∀ bound, answers.EndsAt bound → (bound ∈ covered pages kind ↔ Probed calls bound) := by
  constructor
  · rw [served.complete_iff begun ends, bound?_of_unsized unsized]
    constructor
    · -- The end that the handle has found is the true one.
      rintro ⟨bound, ended, below⟩
      exact ⟨bound, served.endsAt_of_namedEnd ends ended fun index before => (below index before).2,
        below, ((served.explored ends).ended bound ended).1⟩
    · -- The true end has been covered, so the handle has found it.
      rintro ⟨bound, last, below, member⟩
      exact ⟨bound, served.namedEnd_of_endsAt ends unsized last member, below⟩
  · -- Once it is covered it is the end of the handle, which has been asked for.
    intro bound last
    constructor
    · intro member
      exact served.probed.2 bound (served.namedEnd_of_endsAt ends unsized last member)
    · exact served.probed.1 bound

/-- The count of named children is told exactly by a complete handle without a size. -/
theorem knownNamedCount_iff (served : Served value answers kind pages calls handle)
    (begun : pages ≠ []) (ends : answers.EndForGood) (count : Nat) :
    handle.knownNamedCount = some count ↔ (∀ size, kind ≠ .indexed size) ∧
      handle.state = .enumerated kind .complete ∧ answers.EndsAt count := by
  have decided := served.complete_iff begun ends
  constructor
  · intro told
    -- Only a complete handle without a size tells a count, and it is the end that it has found.
    have complete : handle.state = .enumerated kind .complete ∧ (∀ size, kind ≠ .indexed size) ∧
        handle.namedEnd = some count := by
      have recorded := served.state begun
      simp only [knownNamedCount, recorded] at told
      rw [recorded]
      cases kind <;> cases tested : handle.isComplete _ <;> simp_all
    obtain ⟨state, unsized, ended⟩ := complete
    obtain ⟨bound, known, below⟩ := decided.mp state
    rw [bound?_of_unsized unsized, ended] at known
    cases known
    exact ⟨unsized, state,
      served.endsAt_of_namedEnd ends ended fun index before => (below index before).2⟩
  · -- The bound below which every child is there can be no other than the end.
    rintro ⟨unsized, complete, last⟩
    obtain ⟨bound, known, below⟩ := decided.mp complete
    rw [bound?_of_unsized unsized] at known
    have found := served.endsAt_of_namedEnd ends known fun index before => (below index before).2
    rw [knownNamedCount_of_complete unsized complete, known, last.unique found]

/-- A complete handle is left alone by every further page, and no child is asked for. -/
theorem enumerate_of_complete (served : Served value answers kind pages calls handle)
    (begun : pages ≠ []) (complete : handle.state = .enumerated kind .complete)
    (provider : Provider) (inquiry : Inquiry) (window : Window) (maxNamed : Nat)
    (ledger : Ledger) :
    (handle.enumerate kind provider window maxNamed inquiry ledger).handle = handle ∧
      (handle.enumerate kind provider window maxNamed inquiry ledger).ledger = ledger := by
  have tested := (served.complete_iff_isComplete begun).mp complete
  obtain ⟨bound, known, remembered⟩ := (served.tidy.isComplete_iff kind).mp tested
  -- Every position of the window is remembered or lies behind the end.
  have settled : ∀ position ∈ window.positions kind maxNamed,
      handle.stopsAt kind position = true ∨ ∃ child, handle.child? position = some child := by
    intro position member
    rcases Nat.lt_or_ge position bound with below | beyond
    · exact .inr (remembered position below)
    · cases kind with
      | indexed count =>
        -- A window of announced positions does not reach behind the bound.
        cases known
        exact absurd (Window.lt_of_mem_positions member) (Nat.not_lt_of_le beyond)
      | named | undeclared => exact .inl (stopsAt_iff.mpr ⟨nofun, bound, beyond, known⟩)
  rw [Window.positions_eq_run] at settled
  obtain ⟨same, unasked⟩ := serveRun_of_remembered inquiry provider value ledger settled
  rw [enumerate_of_value served.target, markClassified_of_resolved (by rw [complete]; exact nofun)]
  simp only [same, unasked, and_true]
  -- The record of the window says what it said before.
  rw [recordWindow, if_pos tested, ← complete]

end Served

/--
Coverage is complete exactly when pages have covered every child there is, and then for good.

With a size that is every announced position, and each must have a child.
Without one it is every position before the first without a child, which must have been asked for.
The count of named children is told exactly then, and a complete handle asks for nothing more.
-/
theorem coverage_exact {value : Value} {pages : List (Window × Nat)} {calls : List Call}
    (served : Served value answers kind pages calls handle) (begun : pages ≠ [])
    (ends : answers.EndForGood) :
    (match kind with
      | .indexed count =>
        handle.state = .enumerated kind .complete ↔
          ∀ index < count, index ∈ covered pages kind ∧ ∃ child, answers index = .ok (some child)
      | .named | .undeclared =>
        (handle.state = .enumerated kind .complete ↔ ∃ bound, answers.EndsAt bound ∧
          (∀ index < bound, index ∈ covered pages kind ∧
            ∃ child, answers index = .ok (some child)) ∧ bound ∈ covered pages kind) ∧
        ∀ bound, answers.EndsAt bound → (bound ∈ covered pages kind ↔ Probed calls bound)) ∧
      (∀ count, handle.knownNamedCount = some count ↔ (∀ size, kind ≠ .indexed size) ∧
        handle.state = .enumerated kind .complete ∧ answers.EndsAt count) ∧
      (handle.state = .enumerated kind .complete →
        ∀ provider inquiry window maxNamed ledger,
          (handle.enumerate kind provider window maxNamed inquiry ledger).handle = handle ∧
            (handle.enumerate kind provider window maxNamed inquiry ledger).ledger = ledger) := by
  -- With a size the bound is announced, and without one it has to be found.
  refine ⟨?_, served.knownNamedCount_iff begun ends, served.enumerate_of_complete begun⟩
  cases kind with
  | indexed count => simpa [bound?] using served.complete_iff begun ends
  | named | undeclared =>
    exact served.complete_iff_of_unsized begun ends fun count sized => by cases sized

/-- A list of two is counted right though its end was first taken to lie further back. -/
theorem coverage_exact_of_list :
    let first : Value := ⟨.given 1, "first", ⟨"int", .scalar⟩, "1"⟩
    let second : Value := ⟨.given 2, "second", ⟨"int", .scalar⟩, "2"⟩
    let list : Value := ⟨.given 0, "list", ⟨"List", .scalar⟩, "[..]"⟩
    let formatter : Formatter :=
      ⟨fun _ => .byName, fun _ _ _ => .returns none, fun _ _ _ => .returns (.ok 2),
        fun _ _ _ key => match key with
          | .position 0 => .returns (.ok (some first))
          | .position 1 => .returns (.ok (some second))
          | _ => .returns (.ok none)⟩
    let page (handle : Handle) (window : Window) : Enumerated (List ChildOutcome) :=
      handle.enumerate .named ⟨.user "list", formatter⟩ window 10 ⟨⟨[], 0⟩, .unbounded⟩ .empty
    let early := (page (fresh (.value list)) ⟨5, some 2⟩).handle
    let late := (page (page early ⟨0, some 1⟩).handle ⟨1, none⟩).handle
    early.namedEnd = some 5 ∧ late.state = .enumerated .named .complete ∧
      late.knownNamedCount = some 2 ∧ (page late .all).handle = late ∧
      (page late .all).ledger = .empty := by
  intro first second list formatter page early late
  have answered : Inquiry.Answers ⟨⟨[], 0⟩, .unbounded⟩ ⟨.user "list", formatter⟩ list
      (.ofList [first, second]) := by
    intro index ledger
    rcases index with _ | _ | index <;> rfl
  -- Every page asks for some children, whichever they are.
  obtain ⟨_, made, _⟩ := enumerate_demands (show (fresh (.value list)).target = _ from rfl) .named
    ⟨5, some 2⟩ 10 .empty
  have beyond := Served.fresh.page answered ⟨5, some 2⟩ 10 made
  obtain ⟨_, made, _⟩ := enumerate_demands beyond.target .named ⟨0, some 1⟩ 10 .empty
  have front := beyond.page answered ⟨0, some 1⟩ 10 made
  obtain ⟨_, made, _⟩ := enumerate_demands front.target .named ⟨1, none⟩ 10 .empty
  have whole := front.page answered ⟨1, none⟩ 10 made
  -- The last page closes the gap between the front and the end.
  obtain ⟨⟨complete, _⟩, counted, final⟩ := coverage_exact whole (by simp)
    (ChildAnswers.ofList_endForGood _)
  have last : (ChildAnswers.ofList [first, second]).EndsAt 2 := ChildAnswers.ofList_endsAt _
  have covers : late.state = .enumerated .named .complete := by
    refine complete.mpr ⟨2, last, fun index before => ?_, by decide⟩
    obtain rfl | rfl : index = 0 ∨ index = 1 := by omega
    · exact ⟨by decide, first, rfl⟩
    · exact ⟨by decide, second, rfl⟩
  obtain ⟨same, unasked⟩ := final covers ⟨.user "list", formatter⟩ ⟨⟨[], 0⟩, .unbounded⟩ .all 10
    .empty
  exact ⟨rfl, covers, (counted 2).mpr ⟨nofun, covers, last⟩, same, unasked⟩

end Handle

end Inspection
