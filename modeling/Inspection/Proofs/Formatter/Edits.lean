import Mathlib.Data.List.Induction
import Inspection.Proofs.Formatter.Priority

/-! After any edits the registrations stand in the order in which their names came in, each with
what was registered last under its name. -/

namespace Inspection

namespace Registry

/-- A change of a registry. -/
inductive Edit where
  | register (registration : Registration)
  | unregister (name : String)
  | clear

namespace Edit

/-- Whether an edit registers something under a name. -/
def registers (name : String) : Edit → Bool
  | register registration => registration.name == name
  | unregister _ | clear => false

/-- Whether an edit takes away whatever is registered under a name. -/
def removes (name : String) : Edit → Bool
  | register _ => false
  | unregister other => other == name
  | clear => true

end Edit

/-- The registry after an edit. -/
def edit (registry : Registry) : Edit → Registry
  | .register registration => (registry.register registration).2
  | .unregister name => (registry.unregister name).2
  | .clear => registry.clear

/-- The registry after some edits. -/
def editAll (registry : Registry) (edits : List Edit) : Registry := edits.foldl edit registry

/-- Among some edits something is registered that was due then, and the edits after it keep it. -/
def Since (edits : List Edit) (Due : List Edit → Registration → Prop) (Keeps : Edit → Prop) :
    Prop :=
  ∃ before registration after, edits = before ++ .register registration :: after ∧
    Due before registration ∧ ∀ edit ∈ after, Keeps edit

/-- A registration is the latest of its name, and the name has not been removed since. -/
def Latest (edits : List Edit) (registration : Registration) : Prop :=
  Since edits (fun _ found => found = registration) fun edit =>
    edit.registers registration.name = false ∧ edit.removes registration.name = false

/-- A name has been registered and not been removed since. -/
def Stands (edits : List Edit) (name : String) : Prop :=
  Since edits (fun _ found => found.name = name) fun edit => edit.removes name = false

/-- The position of the edit that first registered a name since it was last removed. -/
def CameIn (edits : List Edit) (name : String) (position : Nat) : Prop :=
  Since edits
    (fun before found => found.name = name ∧ ¬ Stands before name ∧ before.length = position)
    fun edit => edit.removes name = false

/-- Of two names that stand the first came in earlier. -/
def CameBefore (edits : List Edit) (first second : String) : Prop :=
  ∃ early late, CameIn edits first early ∧ CameIn edits second late ∧ early < late

section Since

variable {edits : List Edit} {Due : List Edit → Registration → Prop} {Keeps : Edit → Prop}
  {name : String} {position : Nat}

/-- Before the first edit nothing has been registered. -/
theorem not_since_nil : ¬ Since [] Due Keeps := by
  -- There is no edit that could have registered anything.
  rintro ⟨before, registration, after, split, _⟩
  exact List.append_ne_nil_of_right_ne_nil before (List.cons_ne_nil _ after) split.symm

/-- A further edit either registers what is due or keeps what was registered before it. -/
theorem since_append_iff (edit : Edit) : Since (edits ++ [edit]) Due Keeps ↔
    (∃ registration, edit = .register registration ∧ Due edits registration) ∨
      (Since edits Due Keeps ∧ Keeps edit) := by
  constructor
  · rintro ⟨before, registration, after, split, due, kept⟩
    -- The registration is the further edit itself, or that edit is the last one behind it.
    rcases append_singleton_eq_split_iff.mp split with ⟨rfl, rfl, rfl⟩ | ⟨front, rfl, rfl⟩
    · exact .inl ⟨registration, rfl, due⟩
    · obtain ⟨early, late⟩ := List.forall_mem_append.mp kept
      exact .inr ⟨⟨before, registration, front, rfl, due, early⟩,
        late edit (List.mem_singleton_self edit)⟩
  · rintro (⟨registration, rfl, due⟩ | ⟨⟨before, registration, after, rfl, due, kept⟩, keeps⟩)
    · exact ⟨edits, registration, [], rfl, due, List.forall_mem_nil _⟩
    · exact ⟨before, registration, after ++ [edit],
        append_singleton_eq_split_iff.mpr (.inr ⟨after, rfl, rfl⟩), due,
        List.forall_mem_append.mpr ⟨kept, List.forall_mem_singleton.mpr keeps⟩⟩

/-- The latest registration of a name is the further edit or one that it does not touch. -/
theorem latest_append_iff (edit : Edit) {registration : Registration} :
    Latest (edits ++ [edit]) registration ↔ edit = .register registration ∨
      (Latest edits registration ∧ edit.registers registration.name = false ∧
        edit.removes registration.name = false) := by
  -- A registration is due if it is the one in question.
  rw [Latest, since_append_iff]
  refine or_congr_left ⟨?_, ?_⟩
  · rintro ⟨found, same, rfl⟩
    exact same
  · intro same
    exact ⟨registration, same, rfl⟩

/-- A name stands after a further edit that registers it, or if it stood and is not removed. -/
theorem stands_append_iff (edit : Edit) : Stands (edits ++ [edit]) name ↔
    edit.registers name = true ∨ (Stands edits name ∧ edit.removes name = false) := by
  -- A registration is due if it bears the name, and only registering registers.
  rw [Stands, since_append_iff]
  refine or_congr_left ?_
  cases edit with
  | register registration =>
    simp only [Edit.register.injEq, Edit.registers, beq_iff_eq]
    exact ⟨fun ⟨found, same, named⟩ => same ▸ named, fun named => ⟨registration, rfl, named⟩⟩
  | unregister _ | clear =>
    refine ⟨fun ⟨_, different, _⟩ => ?_, fun impossible => ?_⟩
    · cases different
    · cases impossible

/-- A name that does not stand comes in with the edit that registers it. -/
theorem cameIn_append_iff (edit : Edit) : CameIn (edits ++ [edit]) name position ↔
    (edit.registers name = true ∧ ¬ Stands edits name ∧ edits.length = position) ∨
      (CameIn edits name position ∧ edit.removes name = false) := by
  -- A registration is due if it bears a name that does not stand, and only registering registers.
  rw [CameIn, since_append_iff]
  refine or_congr_left ?_
  cases edit with
  | register registration =>
    simp only [Edit.register.injEq, Edit.registers, beq_iff_eq]
    exact ⟨fun ⟨found, same, due⟩ => same ▸ due, fun due => ⟨registration, rfl, due⟩⟩
  | unregister _ | clear =>
    refine ⟨fun ⟨_, different, _⟩ => ?_, fun ⟨impossible, _⟩ => ?_⟩
    · cases different
    · cases impossible

/-- A name came in before the end of the edits. -/
theorem CameIn.lt_length (came : CameIn edits name position) : position < edits.length := by
  -- The edit that registered the name stands before some of the edits.
  obtain ⟨before, registration, after, rfl, ⟨_, _, rfl⟩, _⟩ := came
  simp only [List.length_append, List.length_cons]
  omega

/-- A name that came in stands. -/
theorem CameIn.stands (came : CameIn edits name position) : Stands edits name := by
  -- What the name came in with has been kept since.
  obtain ⟨before, registration, after, split, ⟨named, _⟩, kept⟩ := came
  exact ⟨before, registration, after, split, named, kept⟩

/-- A name that stands came in at exactly one position. -/
theorem Stands.existsUnique (stands : Stands edits name) :
    ∃! position, CameIn edits name position := by
  -- The induction is on the edits, the last of which brings the name in or leaves it standing.
  induction edits using List.reverseRecOn with
  | nil => exact absurd stands not_since_nil
  | append_singleton edits edit ih =>
    simp only [cameIn_append_iff]
    by_cases before : Stands edits name
    · -- What stood before was not removed, and so it did not come in again.
      obtain ⟨position, came, only⟩ := ih before
      have kept : edit.removes name = false := by
        rcases (stands_append_iff edit).mp stands with registered | ⟨_, kept⟩
        · cases edit with
          | register _ => rfl
          | unregister _ | clear => cases registered
        · exact kept
      refine ⟨position, .inr ⟨came, kept⟩, ?_⟩
      rintro other (⟨_, missing, _⟩ | ⟨also, _⟩)
      · exact absurd before missing
      · exact only other also
    · -- What did not stand before can only have come in with the last edit.
      have registered : edit.registers name = true := by
        rcases (stands_append_iff edit).mp stands with registered | ⟨stood, _⟩
        · exact registered
        · exact absurd stood before
      refine ⟨edits.length, .inl ⟨registered, before, rfl⟩, ?_⟩
      rintro other (⟨_, _, same⟩ | ⟨came, _⟩)
      · exact same.symm
      · exact absurd came.stands before

end Since

/-- A registry is what some edits have made of an empty one. -/
structure Follows (registry : Registry) (edits : List Edit) : Prop where
  order : (registry.entries.map (·.name)).Pairwise (CameBefore edits)
  standing : ∀ name, name ∈ registry.entries.map (·.name) ↔ Stands edits name
  latest : ∀ entry, entry ∈ registry.entries ↔ Latest edits entry

namespace Follows

variable {registry : Registry} {edits : List Edit} (follows : registry.Follows edits)

/-- An empty registry follows no edits. -/
theorem empty : Registry.empty.Follows [] where
  order := List.Pairwise.nil
  standing _ := ⟨nofun, fun stands => absurd stands not_since_nil⟩
  latest _ := ⟨nofun, fun latest => absurd latest not_since_nil⟩

/-- Taking everything away leaves no name standing. -/
theorem clear (registry : Registry) (edits : List Edit) :
    registry.clear.Follows (edits ++ [.clear]) := by
  -- The last edit removes every name, whatever stood before.
  refine ⟨List.Pairwise.nil, fun name => ⟨nofun, fun stands => ?_⟩,
    fun entry => ⟨nofun, fun latest => ?_⟩⟩
  · rcases (stands_append_iff _).mp stands with impossible | ⟨_, impossible⟩ <;> cases impossible
  · rcases (latest_append_iff _).mp latest with impossible | ⟨_, _, impossible⟩ <;>
      cases impossible

include follows

/-- No two registrations have one name. -/
theorem distinct : registry.Distinct := by
  refine follows.order.imp ?_
  rintro first second ⟨early, late, cameFirst, cameSecond, earlier⟩ rfl
  -- A name that came in twice would have two positions.
  have same := (CameIn.stands cameFirst).existsUnique.unique cameFirst cameSecond
  omega

/-- A registration keeps names in the order in which they came in. -/
theorem register (registration : Registration) :
    (registry.register registration).2.Follows (edits ++ [.register registration]) := by
  -- Registering a name that stands replaces its registration, and any other goes to the end.
  have enters := register_enters follows.distinct registration
  have standing : ∀ name, Stands (edits ++ [.register registration]) name ↔
      registration.name = name ∨ Stands edits name := by
    intro name
    simp only [stands_append_iff, Edit.registers, Edit.removes, beq_iff_eq, and_true]
  have keeps : ∀ {name position}, CameIn edits name position →
      CameIn (edits ++ [.register registration]) name position :=
    fun came => (cameIn_append_iff _).mpr (.inr ⟨came, rfl⟩)
  have order : (registry.entries.map (·.name)).Pairwise
      (CameBefore (edits ++ [.register registration])) :=
    follows.order.imp fun ⟨early, late, first, second, earlier⟩ =>
      ⟨early, late, keeps first, keeps second, earlier⟩
  refine ⟨?_, fun name => ?_, fun entry => ?_⟩
  · rw [enters.names]
    split
    · -- A name that is there already keeps its place.
      exact order
    · -- A new name comes in last.
      rename_i missing
      have new : CameIn (edits ++ [.register registration]) registration.name edits.length := by
        refine (cameIn_append_iff _).mpr (.inl ⟨beq_self_eq_true _, ?_, rfl⟩)
        exact fun stands => missing ((follows.standing _).mpr stands)
      refine List.pairwise_append.mpr ⟨order, List.pairwise_singleton _ _, ?_⟩
      intro name member other last
      rw [List.mem_singleton.mp last]
      obtain ⟨position, came, _⟩ := ((follows.standing name).mp member).existsUnique
      exact ⟨position, edits.length, keeps came, new, came.lt_length⟩
  · -- A name stands if it stood before or is the one that is registered.
    rw [standing, ← follows.standing, enters.names]
    split
    · rename_i present
      exact ⟨.inr, fun either => either.elim (fun same => same ▸ present) id⟩
    · simp only [List.mem_append, List.mem_singleton]
      exact ⟨fun either => either.elim .inr fun same => .inl same.symm,
        fun either => either.elim (fun same => .inr same.symm) .inl⟩
  · -- Only what was registered under the same name is no longer the latest.
    rw [enters.mem_iff, follows.latest, latest_append_iff]
    simp only [Edit.register.injEq, Edit.registers, Edit.removes, and_true,
      beq_eq_false_iff_ne, ne_eq]
    refine or_congr eq_comm (and_congr_right fun _ => not_congr eq_comm)

/-- Taking a name away keeps the others in the order in which they came in. -/
theorem unregister (name : String) :
    (registry.unregister name).2.Follows (edits ++ [.unregister name]) := by
  -- Under distinct names at most one registration is taken away.
  have leaves := unregister_leaves follows.distinct name
  have names : ∀ other, other ∈ (registry.unregister name).2.entries.map (·.name) ↔
      other ∈ registry.entries.map (·.name) ∧ name ≠ other := by
    intro other
    simp only [List.mem_map, leaves.mem_iff]
    constructor
    · rintro ⟨entry, ⟨member, different⟩, rfl⟩
      exact ⟨⟨entry, member, rfl⟩, different.symm⟩
    · rintro ⟨⟨entry, member, rfl⟩, different⟩
      exact ⟨entry, ⟨member, different.symm⟩, rfl⟩
  refine ⟨?_, fun other => ?_, fun entry => ?_⟩
  · -- Each name that stays came in where it did before.
    have order := follows.order.sublist (leaves.sublist.map (·.name))
    refine order.imp_of_mem ?_
    rintro first second one other ⟨early, late, cameFirst, cameSecond, earlier⟩
    have keeps : ∀ {other position}, name ≠ other → CameIn edits other position →
        CameIn (edits ++ [.unregister name]) other position :=
      fun different came => (cameIn_append_iff _).mpr (.inr ⟨came, beq_false_of_ne different⟩)
    exact ⟨early, late, keeps ((names first).mp one).2 cameFirst,
      keeps ((names second).mp other).2 cameSecond, earlier⟩
  · -- A name stands if it stood before and is not the one that is removed.
    rw [names, follows.standing, stands_append_iff]
    simp only [Edit.registers, Edit.removes, beq_eq_false_iff_ne, Bool.false_eq_true, false_or]
  · -- The latest registration of any other name is not touched.
    rw [leaves.mem_iff, follows.latest, latest_append_iff]
    simp only [Edit.registers, Edit.removes, beq_eq_false_iff_ne, true_and, reduceCtorEq, false_or]
    exact and_congr_right fun _ => ne_comm

/-- One more edit is followed as well. -/
theorem edit (edit : Edit) : (registry.edit edit).Follows (edits ++ [edit]) := by
  cases edit with
  | register registration => exact follows.register registration
  | unregister name => exact follows.unregister name
  | clear => exact Follows.clear registry edits

end Follows

/-- Any edits of an empty registry are followed. -/
theorem follows_editAll (edits : List Edit) : (Registry.empty.editAll edits).Follows edits := by
  -- The induction is on the edits, the last of which is one more edit of what is followed.
  induction edits using List.reverseRecOn with
  | nil => exact .empty
  | append_singleton edits edit ih =>
    rw [editAll, List.foldl_append]
    exact ih.edit edit

/--
Priorities survive any edits.

Names are distinct and stand in the order in which they came in, each with its latest registration.
The first exact name wins a type, and without one the first expression that matches it.
Registering gives back what it replaces and unregistering what it takes away.
Neither changes the winner of a type that its registration neither covers nor has won.
-/
theorem priority_after_edits (edits : List Edit) :
    let registry := Registry.empty.editAll edits
    (registry.entries.map (·.name)).Nodup ∧
      (registry.entries.map (·.name)).Pairwise (CameBefore edits) ∧
      (∀ entry ∈ registry.entries, ∃! position, CameIn edits entry.name position) ∧
      (∀ entry, entry ∈ registry.entries ↔ Latest edits entry) ∧
      (∀ registration, Enters registration registry.entries (registry.register registration).1
        (registry.register registration).2.entries) ∧
      (∀ name, Leaves name registry.entries (registry.unregister name).1
        (registry.unregister name).2.entries) ∧
      registry.clear.entries = [] ∧
      (∀ typeName, registry.lookup typeName = registry.winner Regex.isMatch typeName ∧
        ((registry.resolve typeName).isNative = true ↔ registry.lookup typeName = none)) ∧
      ∀ (matched : Regex → String → Bool) (typeName : String),
        (∀ entry, registry.winner matched typeName = some entry ↔
          FirstOf (·.Names typeName) registry.entries entry ∨
            (∀ other ∈ registry.entries, ¬ other.Names typeName) ∧
              FirstOf (·.Expresses matched typeName) registry.entries entry) ∧
        (registry.winner matched typeName = none ↔ ∀ entry ∈ registry.entries,
          ¬ entry.Names typeName ∧ ¬ entry.Expresses matched typeName) ∧
        (∀ name, (∀ entry, registry.winner matched typeName = some entry → entry.name ≠ name) →
          (registry.unregister name).2.winner matched typeName =
            registry.winner matched typeName) ∧
        ∀ registration old, (registry.register registration).1 = some old →
          old.pattern.coversBy matched typeName = false →
          registration.pattern.coversBy matched typeName = false →
            (registry.register registration).2.winner matched typeName =
              registry.winner matched typeName := by
  intro registry
  -- All that is said of the names is what following the edits comes to.
  have follows : registry.Follows edits := follows_editAll edits
  refine ⟨follows.distinct, follows.order, fun entry member => ?_,
    follows.latest, register_enters follows.distinct, unregister_leaves follows.distinct, rfl,
    fun typeName => ⟨lookup_eq_winner registry typeName, isNative_resolve_iff⟩,
    fun matched typeName => ⟨fun entry => winner_eq_some_iff, winner_eq_none_iff,
      fun name lost => winner_unregister lost, fun registration old given uncovered also => ?_⟩⟩
  · exact ((follows.standing entry.name).mp (List.mem_map_of_mem member)).existsUnique
  · refine winner_register also fun found same => ?_
    -- What is given back is the registration that was found under the name.
    rw [show old = found from Option.some.inj (given.symm.trans same)] at uncovered
    exact uncovered

end Registry

end Inspection
