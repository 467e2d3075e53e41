import Mathlib.Data.List.Nodup
import Inspection.Proofs.Configuration
import Inspection.Proofs.Console
import Inspection.Session

/-! A configured formatter can be deleted by name as long as no blank stands in the name. -/

namespace Inspection

variable {configuration : Configuration} {registry : Registry} {entry : Registration}

/-- In an accepted registry no two registrations have one name. -/
theorem Configuration.distinct_of_registry (built : configuration.registry = .ok registry) :
    registry.Distinct := by
  -- Names are kept distinct whatever patterns are taken to be valid.
  rw [Configuration.registry_eq_registryBy] at built
  exact (Configuration.carries_registryBy built).distinct

/-- In an accepted registry no name is blank. -/
theorem Configuration.named_of_registry (built : configuration.registry = .ok registry)
    (registered : entry ∈ registry.entries) : ¬ Text.IsBlankRun entry.name.toList := by
  rw [Configuration.registry_eq_registryBy] at built
  obtain ⟨declaration, ⟨before, after, split, _⟩, asked⟩ :=
    ((Configuration.carries_registryBy built).defined entry).mp registered
  -- Every declaration of an accepted configuration is admissible.
  have admissible := Configuration.registerAllBy_isOk_iff.mp ⟨registry, built⟩ declaration
    (split ▸ List.mem_append_right before List.mem_cons_self)
  rw [(Declaration.registrationBy_eq_some_iff.mp asked).1]
  exact admissible.1

namespace Registry

/-- Unregistering a name leaves everything, or takes away the registration of the name alone. -/
theorem unregister_cases (distinct : registry.Distinct) (name : String) :
    (registry.unregister name = (none, registry) ∧
        ∀ entry ∈ registry.entries, entry.name ≠ name) ∨
      ∃ before old after, old.name = name ∧ registry.entries = before ++ old :: after ∧
        registry.unregister name = (some old, ⟨before ++ after⟩) := by
  -- What unregistering leaves is known for distinct names; here the two ways are told apart.
  have leaves := unregister_leaves distinct name
  rcases taken : registry.unregister name with ⟨given, ⟨remaining⟩⟩
  rw [taken] at leaves
  obtain ⟨entries⟩ := registry
  cases leaves with
  | absent missing => exact .inl ⟨rfl, missing⟩
  | @taken before after old same _ => exact .inr ⟨before, old, after, same, rfl, rfl⟩

/-- Where names are distinct, only one registration has a name. -/
theorem Distinct.eq_of_name {other : Registration} (distinct : registry.Distinct)
    (registered : entry ∈ registry.entries) (also : other ∈ registry.entries)
    (same : other.name = entry.name) : other = entry :=
  List.inj_on_of_nodup_map distinct also registered same

/-- A registration that is taken away by its name leaves the others in their order. -/
theorem unregister_of_mem (distinct : registry.Distinct) (registered : entry ∈ registry.entries) :
    ∃ before after, registry.entries = before ++ entry :: after ∧
      registry.unregister entry.name = (some entry, ⟨before ++ after⟩) := by
  -- A name that is registered is found, and under distinct names it is found here.
  rcases unregister_cases distinct entry.name with
    ⟨_, missing⟩ | ⟨before, old, after, same, split, taken⟩
  · exact absurd rfl (missing entry registered)
  · have also : old ∈ registry.entries := split ▸ List.mem_append_right _ List.mem_cons_self
    obtain rfl := distinct.eq_of_name registered also same
    exact ⟨before, after, split, taken⟩

end Registry

namespace Session

variable {session : Session}

/-- The console runs the line that asks for a deletion, and nothing but its effect shows. -/
theorem evaluate_deletion (session : Session) (frame : Nat) (name : String) :
    session.evaluate frame (Console.deletion name) =
      let effect := Console.run (Console.deletion name) session.registry session.ledger
      (.ok (.console effect.output),
        { session with registry := effect.registry, ledger := effect.ledger }) := by
  -- The mark is the first letter also when the blanks have been cut.
  have marked : (Text.trim (Console.deletion name)).toList.head? = some Console.mark := by
    rw [Text.trim, String.toList_ofList, Console.toList_deletion,
      Text.trimList_cons_of_visible (by decide)]
    rfl
  -- The console cuts the line into words, so the blanks around it do not matter.
  have same : ∀ registry ledger, Console.run (Text.trim (Console.deletion name)) registry ledger =
      Console.run (Console.deletion name) registry ledger := by
    intro registry ledger
    rw [Console.run, Console.run, Console.parse_trim]
  simp only [evaluate, marked, if_true, runConsole, same]

/-- A deletion that is understood takes away the registration of the word, if there is one. -/
theorem evaluate_deletion_of_word (distinct : session.registry.Distinct) (frame : Nat)
    {name : String} {word : List Char} (single : Text.words name.toList = [word]) :
    ∃ output registry, session.evaluate frame (Console.deletion name) =
        (.ok (.console output), { session with registry }) ∧
      (registry = session.registry ∨ ∃ before old after, old.name.toList = word ∧
        session.registry.entries = before ++ old :: after ∧ registry = ⟨before ++ after⟩) := by
  -- The console reads the one word as the name, whatever blanks stand around it.
  have parsed := Console.parse_deletion name
  rw [single] at parsed
  rw [evaluate_deletion]
  simp only [Console.run, parsed, Console.execute]
  rcases Registry.unregister_cases distinct (String.ofList word) with
    ⟨missing, _⟩ | ⟨before, old, after, same, split, taken⟩
  · -- No formatter has the word for its name.
    rw [missing]
    exact ⟨_, _, rfl, .inl rfl⟩
  · -- The formatter that has it is taken away.
    rw [taken]
    refine ⟨_, _, rfl, .inr ⟨before, old, after, ?_, split, rfl⟩⟩
    rw [same, String.toList_ofList]

/-- A deletion that is not understood changes nothing. -/
theorem evaluate_deletion_of_error {name : String} {error : Console.CommandError}
    (refused : Console.parse (Console.deletion name) = .error error) (frame : Nat) :
    session.evaluate frame (Console.deletion name) = (.ok (.console error.message), session) := by
  rw [evaluate_deletion, Console.run, refused]

/--
A registered formatter is deleted by its name exactly if no blank stands in the name.

Then the formatter alone is taken away, and nothing else of the session changes.
A name with a blank in it stays registered.
If it is a single word among blanks, the formatter of that word is taken away in its place.
-/
theorem deletion_exact (built : configuration.registry = .ok session.registry)
    (registered : entry ∈ session.registry.entries) (frame : Nat) :
    let visible := ∀ letter ∈ entry.name.toList, Text.isBlank letter = false
    let answered := session.evaluate frame (Console.deletion entry.name)
    (Console.parse (Console.deletion entry.name) = .ok (.delete entry.name) ↔ visible) ∧
      (visible → ∃ before after, session.registry.entries = before ++ entry :: after ∧
        answered = (.ok (.console ("deleted formatter '" ++ entry.name ++ "' (" ++
          entry.pattern.text ++ ")")), { session with registry := ⟨before ++ after⟩ })) ∧
      (¬ visible → ∃ output registry,
        answered = (.ok (.console output), { session with registry }) ∧
          entry ∈ registry.entries ∧
          (registry = session.registry ∨ ∃ before other after,
            Text.words entry.name.toList = [other.name.toList] ∧
              session.registry.entries = before ++ other :: after ∧
              registry = ⟨before ++ after⟩)) := by
  intro visible answered
  -- Names are distinct and none of them is blank, so that every one has letters.
  have distinct := Configuration.distinct_of_registry built
  have named := Configuration.named_of_registry built registered
  have nonempty : entry.name.toList ≠ [] := by
    intro none
    rw [none] at named
    exact named (List.forall_mem_nil _)
  have parses := Console.parse_deletion_eq_iff.trans (and_iff_right nonempty)
  refine ⟨parses, fun seen => ?_, fun hidden => ?_⟩
  · -- The line is understood as the whole name, which is registered.
    obtain ⟨before, after, split, taken⟩ := Registry.unregister_of_mem distinct registered
    refine ⟨before, after, split, ?_⟩
    simp only [answered, evaluate_deletion, Console.run, parses.mpr seen, Console.execute, taken]
  · -- Only a single word is understood, and it is not the whole name.
    have parsed := Console.parse_deletion entry.name
    rcases words : Text.words entry.name.toList with _ | ⟨word, _ | ⟨second, rest⟩⟩
    · -- Without a word the line has no name on it.
      rw [words] at parsed
      exact ⟨_, _, evaluate_deletion_of_error parsed frame, registered, .inl rfl⟩
    · obtain ⟨output, registry, answers, left⟩ := evaluate_deletion_of_word distinct frame words
      refine ⟨output, registry, answers, ?_, ?_⟩
      · rcases left with rfl | ⟨before, old, after, same, split, rfl⟩
        · exact registered
        · rw [split] at registered
          rcases List.mem_append.mp registered with front | back
          · exact List.mem_append_left _ front
          · rcases List.mem_cons.mp back with rfl | behind
            · -- The registration of the word is not the one of the whole name.
              exact absurd (Text.words_eq_self_iff.mp (same ▸ words)).2 hidden
            · exact List.mem_append_right _ behind
      · rcases left with same | ⟨before, old, after, same, split, rest⟩
        · exact .inl same
        · exact .inr ⟨before, old, after, by rw [same], split, rest⟩
    · -- Of several words none is read as the name.
      rw [words] at parsed
      exact ⟨_, _, evaluate_deletion_of_error parsed frame, registered, .inl rfl⟩

namespace Lookalikes

/-- Two formatters, of which the second is named like the first with a blank in front. -/
def declared : Configuration :=
  { declarations := [.plain "Bag" "Bag", .plain " Bag" "Sack"] }

/-- The registration of the first formatter. -/
def bag : Registration := ⟨"Bag", .exact "Bag", (Declaration.plain "Bag" "Bag").formatter⟩

/-- The registration of the second formatter. -/
def sack : Registration := ⟨" Bag", .exact "Sack", (Declaration.plain " Bag" "Sack").formatter⟩

/-- A session with the two formatters. -/
def here : Session := Session.start ⟨[], 0⟩ ⟨[bag, sack]⟩ declared.options

end Lookalikes

/-- The formatter whose name has no blank in it is deleted by its name. -/
theorem deletion_of_visible :
    Lookalikes.declared.registry = .ok Lookalikes.here.registry ∧
      Lookalikes.bag ∈ Lookalikes.here.registry.entries ∧
      Console.parse (Console.deletion "Bag") = .ok (.delete "Bag") := by
  have built : Lookalikes.declared.registry = .ok Lookalikes.here.registry := rfl
  have registered : Lookalikes.bag ∈ Lookalikes.here.registry.entries := List.mem_cons_self
  exact ⟨built, registered, (deletion_exact built registered 0).1.mpr (Text.visible_of_all rfl)⟩

/-- The line that names the second formatter takes away the first. -/
theorem deletion_takes_other :
    Lookalikes.declared.registry = .ok Lookalikes.here.registry ∧
      Lookalikes.here.registry = ⟨[Lookalikes.bag, Lookalikes.sack]⟩ ∧
      Console.parse (Console.deletion Lookalikes.sack.name) = .ok (.delete Lookalikes.bag.name) ∧
      (Lookalikes.here.evaluate 0 (Console.deletion Lookalikes.sack.name)).2.registry =
        ⟨[Lookalikes.sack]⟩ :=
  ⟨rfl, rfl, rfl, rfl⟩

end Session

end Inspection
