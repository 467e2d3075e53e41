import Inspection.Formatter.Registry

/-! The first exact name wins a type, then the first expression, and an edit shows only in the types
that its registration covers or has won. -/

namespace Inspection

variable {matched : Regex → String → Bool} {typeName name : String}

/-- Whether a pattern covers a type name, where `matched` says which names an expression matches. -/
def TypePattern.coversBy (matched : Regex → String → Bool) (pattern : TypePattern)
    (typeName : String) : Bool :=
  match pattern with
  | .exact name => name == typeName
  | .regex expression => matched expression typeName

namespace Registration

/-- The pattern is this very type name. -/
def Names (entry : Registration) (typeName : String) : Prop := entry.pattern = .exact typeName

/-- The pattern is an expression that matches the type name. -/
def Expresses (matched : Regex → String → Bool) (entry : Registration) (typeName : String) : Prop :=
  ∃ expression, entry.pattern = .regex expression ∧ matched expression typeName = true

variable {entry : Registration}

/-- An exact pattern covers the one name that it is. -/
theorem names_iff :
    (entry.pattern.isExact && entry.pattern.coversBy matched typeName) = true ↔
      entry.Names typeName := by
  -- An expression is never exact, and an exact pattern covers one name alone.
  simp only [Names]
  cases entry.pattern with
  | exact name => simp [TypePattern.isExact, TypePattern.coversBy]
  | regex expression => simp [TypePattern.isExact]

/-- An expression covers the names that it matches. -/
theorem expresses_iff :
    (!entry.pattern.isExact && entry.pattern.coversBy matched typeName) = true ↔
      entry.Expresses matched typeName := by
  -- Only an expression is not exact, and it covers what it matches.
  simp only [Expresses]
  cases entry.pattern with
  | exact name => simp [TypePattern.isExact]
  | regex expression => simp [TypePattern.isExact, TypePattern.coversBy]

end Registration

/-- A list with one more item splits at that item, or where it could be split before. -/
theorem append_singleton_eq_split_iff {Item : Type} {items front back : List Item}
    {last item : Item} : items ++ [last] = front ++ item :: back ↔
      (front = items ∧ item = last ∧ back = []) ∨
        ∃ rest, back = rest ++ [last] ∧ items = front ++ item :: rest := by
  constructor
  · intro split
    -- The last item behind the split is the one that was added, unless nothing is behind it.
    rcases List.eq_nil_or_concat back with rfl | ⟨rest, final, rfl⟩
    · obtain ⟨rfl, rfl⟩ := List.append_singleton_inj.mp split
      exact .inl ⟨rfl, rfl, rfl⟩
    · rw [List.concat_eq_append, ← List.cons_append, ← List.append_assoc] at split
      obtain ⟨rfl, rfl⟩ := List.append_singleton_inj.mp split
      exact .inr ⟨rest, List.concat_eq_append, rfl⟩
  · -- Either way of splitting puts the same items in the same order.
    rintro (⟨rfl, rfl, rfl⟩ | ⟨rest, rfl, rfl⟩)
    · rfl
    · rw [List.append_assoc, List.cons_append]

/-- An entry is the first of a list of which something holds. -/
def FirstOf (Holds : Registration → Prop) (entries : List Registration) (entry : Registration) :
    Prop :=
  ∃ before after, entries = before ++ entry :: after ∧ Holds entry ∧
    ∀ earlier ∈ before, ¬ Holds earlier

/-- A search finds the first entry that passes the test. -/
theorem find?_eq_some_iff_first {test : Registration → Bool} {Holds : Registration → Prop}
    (tests : ∀ entry, test entry = true ↔ Holds entry) {entries : List Registration}
    {entry : Registration} : entries.find? test = some entry ↔ FirstOf Holds entries entry := by
  -- A search passes over everything in front that fails the test.
  rw [List.find?_eq_some_iff_append, tests]
  have failing : ∀ earlier, (!test earlier) = true ↔ ¬ Holds earlier := by
    intro earlier
    rw [← tests, Bool.not_eq_true', Bool.not_eq_true]
  simp only [failing, FirstOf]
  constructor
  · rintro ⟨holds, before, after, split, others⟩
    exact ⟨before, after, split, holds, others⟩
  · rintro ⟨before, after, split, holds, others⟩
    exact ⟨holds, before, after, split, others⟩

/-- A registration enters a list in the place of the one with its name, or behind all the others. -/
inductive Enters (registration : Registration) :
    List Registration → Option Registration → List Registration → Prop where
  | behind {entries : List Registration}
      (new : ∀ entry ∈ entries, entry.name ≠ registration.name) :
      Enters registration entries none (entries ++ [registration])
  | inPlace {before after : List Registration} {old : Registration}
      (same : old.name = registration.name)
      (others : ∀ entry ∈ before ++ after, entry.name ≠ registration.name) :
      Enters registration (before ++ old :: after) (some old) (before ++ registration :: after)

/-- The registration of a name leaves a list, if there is one, and the others stay as they are. -/
inductive Leaves (name : String) :
    List Registration → Option Registration → List Registration → Prop where
  | absent {entries : List Registration} (missing : ∀ entry ∈ entries, entry.name ≠ name) :
      Leaves name entries none entries
  | taken {before after : List Registration} {old : Registration} (same : old.name = name)
      (others : ∀ entry ∈ before ++ after, entry.name ≠ name) :
      Leaves name (before ++ old :: after) (some old) (before ++ after)

section Change

variable {registration entry : Registration} {entries changed : List Registration}
  {given : Option Registration}

/-- After a registration has entered, the entries are itself and those of other names. -/
theorem Enters.mem_iff (enters : Enters registration entries given changed) :
    entry ∈ changed ↔
      entry = registration ∨ (entry ∈ entries ∧ entry.name ≠ registration.name) := by
  cases enters with
  | behind new =>
    simp only [List.mem_append, List.mem_singleton]
    constructor
    · -- A new registration comes behind entries that all have other names.
      rintro (member | same)
      · exact .inr ⟨member, new entry member⟩
      · exact .inl same
    · rintro (same | ⟨member, _⟩)
      · exact .inr same
      · exact .inl member
  | @inPlace before after old same others =>
    simp only [List.mem_append, List.mem_cons]
    constructor
    · -- The entries before and behind the place that is taken all have other names.
      rintro (front | here | back)
      · exact .inr ⟨.inl front, others entry (List.mem_append_left _ front)⟩
      · exact .inl here
      · exact .inr ⟨.inr (.inr back), others entry (List.mem_append_right _ back)⟩
    · -- The entry whose place is taken has the name of the registration.
      rintro (here | ⟨front | rfl | back, different⟩)
      · exact .inr (.inl here)
      · exact .inl front
      · exact absurd same different
      · exact .inr (.inr back)

/-- A registration that enters brings in its name unless the name is there already. -/
theorem Enters.names (enters : Enters registration entries given changed) :
    changed.map (·.name) =
      if registration.name ∈ entries.map (·.name) then entries.map (·.name)
      else entries.map (·.name) ++ [registration.name] := by
  cases enters with
  | behind new =>
    -- Behind the others there is a name that none of them has.
    have missing : registration.name ∉ entries.map (·.name) := by
      intro member
      obtain ⟨entry, among, same⟩ := List.mem_map.mp member
      exact new entry among same
    rw [if_neg missing, List.map_append, List.map_singleton]
  | @inPlace before after old same others =>
    -- In its place there is the same name as before.
    have present : registration.name ∈ (before ++ old :: after).map (·.name) :=
      List.mem_map.mpr ⟨old, List.mem_append_right _ List.mem_cons_self, same⟩
    rw [if_pos present]
    simp only [List.map_append, List.map_cons, same]

/-- After the registration of a name has left, the entries are those of other names. -/
theorem Leaves.mem_iff (leaves : Leaves name entries given changed) :
    entry ∈ changed ↔ entry ∈ entries ∧ entry.name ≠ name := by
  cases leaves with
  | absent missing => exact ⟨fun member => ⟨member, missing entry member⟩, And.left⟩
  | @taken before after old same others =>
    simp only [List.mem_append, List.mem_cons]
    constructor
    · -- The entries before and behind the one that is taken all have other names.
      rintro (front | back)
      · exact ⟨.inl front, others entry (List.mem_append_left _ front)⟩
      · exact ⟨.inr (.inr back), others entry (List.mem_append_right _ back)⟩
    · -- The one that is taken has the name itself.
      rintro ⟨front | rfl | back, different⟩
      · exact .inl front
      · exact absurd same different
      · exact .inr back

/-- The entries that stay when a registration leaves keep their order. -/
theorem Leaves.sublist (leaves : Leaves name entries given changed) : changed.Sublist entries := by
  -- At most one entry is left out, and the others stay where they are.
  cases leaves with
  | absent _ => exact List.Sublist.refl _
  | taken _ _ => exact (List.sublist_cons_self _ _).append_left _

end Change

namespace Registry

variable {registry : Registry} {registration entry : Registration} {entries : List Registration}
  {test : Registration → Bool}

/-- No two registrations have one name. -/
def Distinct (registry : Registry) : Prop := (registry.entries.map (·.name)).Nodup

/-- Where names are distinct, a registration splits the others into those before and behind it. -/
theorem Distinct.others {before after : List Registration} {old : Registration}
    (distinct : registry.Distinct) (split : registry.entries = before ++ old :: after) :
    ∀ entry ∈ before ++ after, entry.name ≠ old.name := by
  -- Among distinct names none before or behind the registration is its own.
  rw [Distinct, split, List.map_append, List.map_cons, List.nodup_append,
    List.nodup_cons] at distinct
  obtain ⟨_, ⟨behind, _⟩, apart⟩ := distinct
  intro entry member same
  rcases List.mem_append.mp member with front | back
  · exact apart entry.name (List.mem_map_of_mem front) old.name List.mem_cons_self same
  · exact behind (same ▸ List.mem_map_of_mem back)

/-- A registration takes the place of the first one with its name. -/
theorem place_of_found {before after : List Registration} {old : Registration}
    (same : old.name = registration.name)
    (others : ∀ entry ∈ before, entry.name ≠ registration.name) :
    place registration (before ++ old :: after) = before ++ registration :: after := by
  -- The induction is on the entries that are passed over.
  induction before with
  | nil => simp [place, same]
  | cons first rest ih =>
    obtain ⟨different, further⟩ := List.forall_mem_cons.mp others
    have passed : (first.name == registration.name) = false := beq_false_of_ne different
    simp only [List.cons_append, place, passed, Bool.false_eq_true, if_false, ih further]

/-- A registration with a new name is put behind all the others. -/
theorem place_of_new (new : ∀ entry ∈ entries, entry.name ≠ registration.name) :
    place registration entries = entries ++ [registration] := by
  -- The induction is on the entries, all of which are passed over.
  induction entries with
  | nil => rfl
  | cons first rest ih =>
    obtain ⟨different, further⟩ := List.forall_mem_cons.mp new
    have passed : (first.name == registration.name) = false := beq_false_of_ne different
    simp only [List.cons_append, place, passed, Bool.false_eq_true, if_false, ih further]

/-- Registering gives back exactly the registration whose place is taken. -/
theorem register_enters (distinct : registry.Distinct) (registration : Registration) :
    Enters registration registry.entries (registry.register registration).1
      (registry.register registration).2.entries := by
  simp only [register]
  cases found : registry.find? registration.name with
  | none =>
    -- No entry of the name was found, so there is none.
    have new : ∀ entry ∈ registry.entries, entry.name ≠ registration.name := by
      intro entry member same
      exact List.find?_eq_none.mp found entry member (beq_iff_eq.mpr same)
    rw [place_of_new new]
    exact .behind new
  | some old =>
    -- The entry that was found splits the others, none of which has its name.
    obtain ⟨same, before, after, split, _⟩ := List.find?_eq_some_iff_append.mp found
    have same : old.name = registration.name := eq_of_beq same
    have others := distinct.others split
    rw [same] at others
    rw [split, place_of_found same fun entry front => others entry (List.mem_append_left _ front)]
    exact .inPlace same others

/-- Unregistering a name gives back its registration and takes away no other. -/
theorem unregister_leaves (distinct : registry.Distinct) (name : String) :
    Leaves name registry.entries (registry.unregister name).1
      (registry.unregister name).2.entries := by
  simp only [unregister]
  cases found : registry.find? name with
  | none =>
    -- Nothing of the name was found, so nothing is taken out.
    have missing := List.find?_eq_none.mp found
    rw [List.eraseP_of_forall_not missing]
    exact .absent fun entry member same => missing entry member (beq_iff_eq.mpr same)
  | some old =>
    obtain ⟨same, before, after, split, passed⟩ := List.find?_eq_some_iff_append.mp found
    have others := distinct.others split
    have here : (old.name == name) = true := same
    rw [eq_of_beq here] at others
    -- What is taken out is the first of the name, which is the one that was found.
    have skipped : ∀ entry ∈ before, ¬ (entry.name == name) = true := by
      intro entry front same
      exact others entry (List.mem_append_left _ front) (eq_of_beq same)
    have left : (old :: after).eraseP (fun entry => entry.name == name) = after :=
      List.eraseP_cons_of_pos here
    rw [split, List.eraseP_append_right _ skipped, left]
    exact .taken (eq_of_beq here) others

/-- The registration that wins a type, where `matched` says which names an expression matches. -/
def winner (matched : Regex → String → Bool) (registry : Registry) (typeName : String) :
    Option Registration :=
  let exact := registry.entries.find? fun entry =>
    entry.pattern.isExact && entry.pattern.coversBy matched typeName
  exact.or (registry.entries.find? fun entry =>
    !entry.pattern.isExact && entry.pattern.coversBy matched typeName)

/-- A look-up finds the winner under the matching of expressions. -/
theorem lookup_eq_winner (registry : Registry) (typeName : String) :
    registry.lookup typeName = registry.winner Regex.isMatch typeName := by
  -- A pattern covers what it covers under the matching of expressions.
  have covers : ∀ pattern : TypePattern,
      pattern.covers typeName = pattern.coversBy Regex.isMatch typeName := by
    intro pattern
    cases pattern <;> rfl
  simp only [lookup, winner, covers]

/-- No registration wins a type exactly if none covers it. -/
theorem winner_eq_none_iff : registry.winner matched typeName = none ↔
    ∀ entry ∈ registry.entries, ¬ entry.Names typeName ∧ ¬ entry.Expresses matched typeName := by
  -- Neither search finds anything.
  simp only [winner, Option.or_eq_none_iff, List.find?_eq_none, Registration.names_iff,
    Registration.expresses_iff]
  exact ⟨fun ⟨unnamed, unmatched⟩ entry member => ⟨unnamed entry member, unmatched entry member⟩,
    fun uncovered => ⟨fun entry member => (uncovered entry member).1,
      fun entry member => (uncovered entry member).2⟩⟩

/-- The first registration for the very name wins, and without one the first expression. -/
theorem winner_eq_some_iff : registry.winner matched typeName = some entry ↔
    FirstOf (·.Names typeName) registry.entries entry ∨
      (∀ other ∈ registry.entries, ¬ other.Names typeName) ∧
        FirstOf (·.Expresses matched typeName) registry.entries entry := by
  -- The second search counts only where the first finds nothing.
  simp only [winner, Option.or_eq_some_iff, List.find?_eq_none,
    find?_eq_some_iff_first fun _ => Registration.names_iff,
    find?_eq_some_iff_first fun _ => Registration.expresses_iff, Registration.names_iff]

/-- A type has no registered formatter exactly if the native one is left for it. -/
theorem isNative_resolve_iff :
    (registry.resolve typeName).isNative = true ↔ registry.lookup typeName = none := by
  -- A formatter that was found is a user's.
  simp only [resolve]
  cases registry.lookup typeName with
  | none => exact ⟨fun _ => rfl, fun _ => rfl⟩
  | some entry => exact ⟨nofun, nofun⟩

/-- An entry that a search does not find can be taken out without the search noticing. -/
theorem find?_eraseP (lost : ∀ entry, entries.find? test = some entry → entry.name ≠ name) :
    (entries.eraseP fun entry => entry.name == name).find? test = entries.find? test := by
  -- The induction is on the entries; behind the one that is taken out nothing changes.
  induction entries with
  | nil => rfl
  | cons first rest ih =>
    by_cases here : first.name = name
    · -- The entry that is taken out fails the test, or it would have been found.
      have fails : test first = false := by
        rw [← Bool.not_eq_true]
        intro passes
        exact lost first (List.find?_cons_of_pos passes) here
      -- The first entry stays, and it decides the search or leaves it to the rest.
      have left : (first :: rest).eraseP (fun entry => entry.name == name) = rest :=
        List.eraseP_cons_of_pos (beq_iff_eq.mpr here)
      rw [left, List.find?_cons, fails]
    · have left : (first :: rest).eraseP (fun entry => entry.name == name) =
          first :: rest.eraseP (fun entry => entry.name == name) :=
        List.eraseP_cons_of_neg fun same => here (eq_of_beq same)
      rw [left, List.find?_cons, List.find?_cons]
      cases passes : test first with
      | true => rfl
      | false =>
        apply ih
        intro entry found
        exact lost entry (by rw [List.find?_cons, passes]; exact found)

/-- A search does not notice a new entry if neither this one nor the one it replaces is found. -/
theorem find?_place (fails : test registration = false)
    (replaced : ∀ old, (entries.find? fun entry => entry.name == registration.name) = some old →
      test old = false) :
    (place registration entries).find? test = entries.find? test := by
  -- The induction is on the entries, up to the first with the name of the registration.
  induction entries with
  | nil => simp [place, fails]
  | cons first rest ih =>
    simp only [place]
    cases same : first.name == registration.name with
    | true =>
      -- Neither the entry that goes nor the one that comes is found.
      have old : test first = false := replaced first (List.find?_cons_of_pos same)
      rw [if_pos rfl, List.find?_cons, List.find?_cons, fails, old]
    | false =>
      rw [if_neg Bool.false_ne_true, List.find?_cons, List.find?_cons]
      cases test first with
      | true => rfl
      | false =>
        apply ih
        intro old found
        exact replaced old (by rw [List.find?_cons, same]; exact found)

/-- A registration that did not win a type can be taken away without changing who does. -/
theorem winner_unregister
    (lost : ∀ entry, registry.winner matched typeName = some entry → entry.name ≠ name) :
    (registry.unregister name).2.winner matched typeName = registry.winner matched typeName := by
  simp only [winner, unregister] at lost ⊢
  rw [find?_eraseP fun entry found => lost entry (by rw [found]; rfl)]
  -- Expressions count only where no registration has the very name.
  cases first : registry.entries.find? fun entry =>
      entry.pattern.isExact && entry.pattern.coversBy matched typeName with
  | some entry => rfl
  | none =>
    rw [first, Option.none_or] at lost
    rw [Option.none_or, Option.none_or, find?_eraseP lost]

/-- A registration that covers no more than the one it replaces changes no other type's winner. -/
theorem winner_register (uncovered : registration.pattern.coversBy matched typeName = false)
    (before : ∀ old, registry.find? registration.name = some old →
      old.pattern.coversBy matched typeName = false) :
    (registry.register registration).2.winner matched typeName =
      registry.winner matched typeName := by
  -- Neither search finds the registration that goes or the one that comes.
  have fails : ∀ kind : Bool,
      (kind && registration.pattern.coversBy matched typeName) = false := by
    intro kind
    rw [uncovered, Bool.and_false]
  simp only [winner, register]
  rw [find?_place (fails _) fun old found => by rw [before old found, Bool.and_false],
    find?_place (fails _) fun old found => by rw [before old found, Bool.and_false]]

end Registry

end Inspection
