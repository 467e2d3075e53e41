import Mathlib.Data.List.Induction
import Inspection.Configuration
import Inspection.Proofs.Formatter.Priority
import Inspection.Proofs.Text

/-! Every declared name stands in the registry where the file first has it, with what the file says
last under it, unless an entry is refused. -/

namespace Inspection

variable {compile : String → Option Regex} {matched : Regex → String → Bool}
  {declarations : List Declaration} {declaration : Declaration} {registry : Registry}
  {registration entry : Registration} {error : ConfigurationError} {typeName : String}

namespace Declaration

/-- The pattern that a declaration asks for, where `compile` says what is a valid expression. -/
def patternBy (compile : String → Option Regex) (declaration : Declaration) : Option TypePattern :=
  if declaration.regex then (compile declaration.pattern).map .regex
  else some (.exact declaration.pattern)

/-- The registration that a declaration asks for under its name, if the pattern is valid. -/
def registrationBy (compile : String → Option Regex) (declaration : Declaration) :
    Option Registration :=
  (declaration.patternBy compile).map fun pattern =>
    ⟨declaration.name, pattern, declaration.formatter⟩

/-- A declaration has a name that is not blank and a valid pattern. -/
def Admissible (compile : String → Option Regex) (declaration : Declaration) : Prop :=
  ¬ Text.IsBlankRun declaration.name.toList ∧ declaration.patternBy compile ≠ none

/-- What is wrong with the declaration in a position, where the name comes before the pattern. -/
inductive Refused (compile : String → Option Regex) (position : Nat) (declaration : Declaration) :
    ConfigurationError → Prop where
  | unnamed (blank : Text.IsBlankRun declaration.name.toList) :
      Refused compile position declaration (.unnamedFormatter position)
  | invalid (named : ¬ Text.IsBlankRun declaration.name.toList)
      (missing : declaration.patternBy compile = none) :
      Refused compile position declaration (.invalidPattern declaration.name)

/-- A registration has the name, the pattern and the formatter of its declaration. -/
theorem registrationBy_eq_some_iff : declaration.registrationBy compile = some entry ↔
    entry.name = declaration.name ∧ declaration.patternBy compile = some entry.pattern ∧
      entry.formatter = declaration.formatter := by
  -- A registration is its three fields.
  obtain ⟨name, pattern, formatter⟩ := entry
  simp only [registrationBy, Option.map_eq_some_iff, Registration.mk.injEq]
  constructor
  · rintro ⟨_, asked, rfl, rfl, rfl⟩
    exact ⟨rfl, asked, rfl⟩
  · rintro ⟨rfl, asked, rfl⟩
    exact ⟨pattern, asked, rfl, rfl, rfl⟩

/-- A declaration that is refused is not admissible. -/
theorem Refused.not_admissible {position : Nat}
    (refused : declaration.Refused compile position error) : ¬ declaration.Admissible compile := by
  -- Either reason denies one of the two things that are asked of a declaration.
  rintro ⟨named, valid⟩
  cases refused with
  | unnamed blank => exact named blank
  | invalid _ missing => exact valid missing

end Declaration

namespace Configuration

/-- The registration of the declaration in a position, or what is wrong with it. -/
def accept (compile : String → Option Regex) (position : Nat) (declaration : Declaration) :
    Except ConfigurationError Registration :=
  if Text.isBlankText declaration.name then .error (.unnamedFormatter position)
  else
    match declaration.registrationBy compile with
    | some registration => .ok registration
    | none => .error (.invalidPattern declaration.name)

/-- Registers declarations in turn, the first of which is in a given position. -/
def registerAllBy (compile : String → Option Regex) (position : Nat) (registry : Registry) :
    List Declaration → Except ConfigurationError Registry
  | [] => .ok registry
  | declaration :: rest => do
    let registration ← accept compile position declaration
    registerAllBy compile (position + 1) (registry.register registration).2 rest

/-- The registry of all declarations, where `compile` says what is a valid expression. -/
def registryBy (compile : String → Option Regex) (declarations : List Declaration) :
    Except ConfigurationError Registry :=
  registerAllBy compile 0 .empty declarations

/-- A configuration compiles the expressions of its declarations. -/
theorem registry_eq_registryBy (configuration : Configuration) :
    configuration.registry = registryBy Regex.compile? configuration.declarations := by
  have agree : ∀ declarations position registry, registerFrom position registry declarations =
      registerAllBy Regex.compile? position registry declarations := by
    intro declarations
    -- The position and the registry change from one declaration to the next, so they stay free.
    induction declarations with
    | nil => exact fun _ _ => rfl
    | cons declaration rest ih =>
      intro position registry
      simp only [registerFrom, registerAllBy, ih]
      rfl
  exact agree configuration.declarations 0 .empty

section Admission

variable {position : Nat}

/-- A declaration is either accepted with its registration or refused for one reason. -/
theorem accept_cases (compile : String → Option Regex) (position : Nat)
    (declaration : Declaration) :
    (∃ registration, accept compile position declaration = .ok registration ∧
      declaration.Admissible compile ∧ declaration.registrationBy compile = some registration) ∨
    ∃ error, accept compile position declaration = .error error ∧
      ∀ reason, declaration.Refused compile position reason ↔ reason = error := by
  have blankRun : Text.isBlankText declaration.name = true ↔
      Text.IsBlankRun declaration.name.toList := List.all_eq_true
  simp only [accept, Declaration.Admissible, Declaration.registrationBy]
  by_cases blank : Text.IsBlankRun declaration.name.toList
  · -- Without a name the pattern does not matter any more.
    refine .inr ⟨_, if_pos (blankRun.mpr blank), fun reason => ⟨?_, ?_⟩⟩
    · rintro (_ | ⟨named, _⟩)
      · rfl
      · exact absurd blank named
    · rintro rfl
      exact .unnamed blank
  · rw [if_neg (mt blankRun.mp blank)]
    cases asked : declaration.patternBy compile with
    -- A name and a valid pattern make the registration.
    | some pattern => exact .inl ⟨_, rfl, ⟨blank, nofun⟩, rfl⟩
    -- With a name only the pattern can be what is wrong.
    | none =>
      refine .inr ⟨_, rfl, fun reason => ⟨?_, ?_⟩⟩
      · rintro (unnamed | _)
        · exact absurd unnamed blank
        · rfl
      · rintro rfl
        exact .invalid blank asked

/-- Further declarations are registered after the ones before them. -/
theorem registerAllBy_append (front back : List Declaration) :
    registerAllBy compile position registry (front ++ back) =
      (registerAllBy compile position registry front).bind fun reached =>
        registerAllBy compile (position + front.length) reached back := by
  -- The induction is on the declarations in front; an error of one of them ends both sides.
  induction front generalizing position registry with
  | nil => rfl
  | cons declaration rest ih =>
    simp only [List.cons_append, registerAllBy]
    rcases accept compile position declaration with error | registration
    · rfl
    · have further : position + (rest.length + 1) = position + 1 + rest.length := by omega
      simp only [bind, Except.bind, ih, List.length_cons, further]

/-- All declarations are registered exactly if each of them is admissible. -/
theorem registerAllBy_isOk_iff :
    (∃ final, registerAllBy compile position registry declarations = .ok final) ↔
      ∀ declaration ∈ declarations, declaration.Admissible compile := by
  -- The induction is on the declarations; a refused one ends the registering.
  induction declarations generalizing position registry with
  | nil => exact ⟨fun _ => List.forall_mem_nil _, fun _ => ⟨registry, rfl⟩⟩
  | cons first rest ih =>
    simp only [registerAllBy, List.forall_mem_cons]
    rcases accept_cases compile position first with
      ⟨registration, accepted, admissible, _⟩ | ⟨error, reported, reasons⟩
    · -- An admissible first declaration leaves it to the rest.
      rw [accepted]
      exact ih.trans ⟨fun further => ⟨admissible, further⟩, And.right⟩
    · rw [reported]
      exact ⟨nofun, fun all => absurd all.1 ((reasons error).mpr rfl).not_admissible⟩

/-- The error is that of the first declaration that is refused. -/
theorem registerAllBy_eq_error_iff :
    registerAllBy compile position registry declarations = .error error ↔
      ∃ before declaration after, declarations = before ++ declaration :: after ∧
        (∀ earlier ∈ before, earlier.Admissible compile) ∧
        declaration.Refused compile (position + before.length) error := by
  -- The induction is on the declarations, the first of which is refused or makes room for the rest.
  induction declarations generalizing position registry with
  | nil =>
    refine ⟨nofun, ?_⟩
    rintro ⟨before, declaration, after, split, _⟩
    exact absurd split.symm (List.append_ne_nil_of_right_ne_nil before (List.cons_ne_nil _ _))
  | cons first rest ih =>
    simp only [registerAllBy, List.cons_eq_append_iff]
    rcases accept_cases compile position first with
      ⟨registration, accepted, admissible, _⟩ | ⟨reported, refused, reasons⟩
    · -- The refused declaration is among the rest, which start one position later.
      have shift : ∀ passed : Nat, position + (passed + 1) = position + 1 + passed := by omega
      rw [accepted]
      refine ih.trans ⟨?_, ?_⟩
      · rintro ⟨before, declaration, after, rfl, earlier, wrong⟩
        rw [← shift] at wrong
        exact ⟨first :: before, declaration, after, .inr ⟨before, rfl, rfl⟩,
          List.forall_mem_cons.mpr ⟨admissible, earlier⟩, wrong⟩
      · rintro ⟨_, declaration, after, ⟨rfl, same⟩ | ⟨before, rfl, rfl⟩, earlier, wrong⟩
        · obtain ⟨rfl, rfl⟩ := List.cons.inj same
          exact absurd admissible wrong.not_admissible
        · rw [List.length_cons, shift] at wrong
          exact ⟨before, declaration, after, rfl, (List.forall_mem_cons.mp earlier).2, wrong⟩
    · -- Where the first is refused, no other can be the first that is.
      have wrong : first.Refused compile position reported := (reasons reported).mpr rfl
      rw [refused]
      constructor
      · intro same
        obtain rfl := Except.error.inj same
        exact ⟨[], first, rest, .inl ⟨rfl, rfl⟩, List.forall_mem_nil _, wrong⟩
      · rintro ⟨_, declaration, after, ⟨rfl, same⟩ | ⟨before, rfl, rfl⟩, earlier, other⟩
        · obtain ⟨rfl, rfl⟩ := List.cons.inj same
          rw [(reasons error).mp other]
          rfl
        · exact absurd (List.forall_mem_cons.mp earlier).1 wrong.not_admissible

end Admission

/-- Of all declarations of its name a declaration is the last. -/
def IsLast (declarations : List Declaration) (declaration : Declaration) : Prop :=
  ∃ before after, declarations = before ++ declaration :: after ∧
    ∀ later ∈ after, later.name ≠ declaration.name

/-- A registration is what the last declaration of its name asks for. -/
def Defines (compile : String → Option Regex) (declarations : List Declaration)
    (entry : Registration) : Prop :=
  ∃ declaration, IsLast declarations declaration ∧
    declaration.registrationBy compile = some entry

/-- The position of the first declaration of a name. -/
def rank (declarations : List Declaration) (name : String) : Nat :=
  (declarations.map (·.name)).idxOf name

/-- Of the defined registrations of which something holds, one is declared first. -/
def Foremost (compile : String → Option Regex) (declarations : List Declaration)
    (Holds : Registration → Prop) (entry : Registration) : Prop :=
  Defines compile declarations entry ∧ Holds entry ∧
    ∀ other, Defines compile declarations other → Holds other →
      rank declarations entry.name ≤ rank declarations other.name

/-- A further declaration is the last of its name, and of other names nothing changes. -/
theorem isLast_append_iff {further : Declaration} :
    IsLast (declarations ++ [further]) declaration ↔ declaration = further ∨
      (IsLast declarations declaration ∧ further.name ≠ declaration.name) := by
  constructor
  · rintro ⟨before, after, split, others⟩
    -- The declaration is the further one itself, or that one is the last behind it.
    rcases append_singleton_eq_split_iff.mp split with ⟨rfl, rfl, rfl⟩ | ⟨front, rfl, rfl⟩
    · exact .inl rfl
    · obtain ⟨early, late⟩ := List.forall_mem_append.mp others
      exact .inr ⟨⟨before, front, rfl, early⟩, late further (List.mem_singleton_self further)⟩
  · rintro (rfl | ⟨⟨before, after, rfl, others⟩, different⟩)
    · exact ⟨declarations, [], rfl, List.forall_mem_nil _⟩
    · exact ⟨before, after ++ [further], append_singleton_eq_split_iff.mpr (.inr ⟨after, rfl, rfl⟩),
        List.forall_mem_append.mpr ⟨others, List.forall_mem_singleton.mpr different⟩⟩

/-- A further name is left out if it occurs already. -/
theorem eraseDups_append_singleton (names : List String) (name : String) :
    (names ++ [name]).eraseDups =
      if name ∈ names then names.eraseDups else names.eraseDups ++ [name] := by
  -- Of the one further name everything is left that is not among the others.
  rw [List.eraseDups_append]
  by_cases present : name ∈ names <;> simp [List.removeAll, List.eraseDups_cons, present]

/-- Without repetitions names stand in the order in which they first occur. -/
theorem eraseDups_pairwise_idxOf (names : List String) :
    names.eraseDups.Pairwise (names.idxOf · < names.idxOf ·) := by
  -- The induction is on the names, the last of which is new or changes nothing.
  induction names using List.reverseRecOn with
  | nil => exact List.Pairwise.nil
  | append_singleton names name ih =>
    -- Where a name first occurs does not depend on what comes behind.
    have kept : ∀ {other}, other ∈ names.eraseDups →
        (names ++ [name]).idxOf other = names.idxOf other :=
      fun member => List.idxOf_append_of_mem (List.mem_eraseDups.mp member)
    have order : names.eraseDups.Pairwise
        ((names ++ [name]).idxOf · < (names ++ [name]).idxOf ·) := by
      refine ih.imp_of_mem fun first second earlier => ?_
      rwa [kept first, kept second]
    rw [eraseDups_append_singleton]
    split
    · exact order
    · -- A new name occurs first behind all the others.
      rename_i new
      refine List.pairwise_append.mpr ⟨order, List.pairwise_singleton _ _, ?_⟩
      intro other member last same
      rw [List.mem_singleton.mp same, kept member, List.idxOf_append_of_notMem new]
      have within := List.idxOf_lt_length_of_mem (List.mem_eraseDups.mp member)
      omega

/-- A registry has each declared name in its first place with its last definition. -/
structure Carries (compile : String → Option Regex) (declarations : List Declaration)
    (registry : Registry) : Prop where
  names : registry.entries.map (·.name) = (declarations.map (·.name)).eraseDups
  defined : ∀ entry, entry ∈ registry.entries ↔ Defines compile declarations entry

namespace Carries

/-- No declaration leaves an empty registry. -/
theorem empty : Carries compile [] .empty where
  names := rfl
  defined entry := by
    refine ⟨nofun, ?_⟩
    -- No declaration stands among none.
    rintro ⟨declaration, ⟨before, after, split, _⟩, _⟩
    exact absurd split.symm (List.append_ne_nil_of_right_ne_nil before (List.cons_ne_nil _ _))

variable (carries : Carries compile declarations registry)

include carries

/-- The registrations stand in the order in which their names are first declared. -/
theorem order : (registry.entries.map (·.name)).Pairwise
    (rank declarations · < rank declarations ·) := by
  -- The names are the declared ones without their repetitions.
  rw [carries.names]
  exact eraseDups_pairwise_idxOf _

/-- No two registrations have one name. -/
theorem distinct : registry.Distinct := by
  -- No name is declared first before itself.
  refine carries.order.imp ?_
  rintro first second earlier rfl
  exact Nat.lt_irrefl _ earlier

/-- A further declaration takes the place of the one that it repeats, or the last place. -/
theorem register {further : Declaration}
    (asks : further.registrationBy compile = some registration) :
    Carries compile (declarations ++ [further]) (registry.register registration).2 := by
  have enters := Registry.register_enters carries.distinct registration
  have named := (Declaration.registrationBy_eq_some_iff.mp asks).1
  refine ⟨?_, fun entry => ?_⟩
  · -- Both leave a name in its place if it is there, and put it last if it is not.
    rw [enters.names, carries.names, List.map_append, List.map_singleton,
      eraseDups_append_singleton, named]
    simp only [List.mem_eraseDups]
  · rw [enters.mem_iff, carries.defined, Defines, Defines]
    constructor
    · -- What the further declaration does not replace is still the last of its name.
      rintro (rfl | ⟨⟨declaration, last, asked⟩, different⟩)
      · exact ⟨further, isLast_append_iff.mpr (.inl rfl), asks⟩
      · refine ⟨declaration, isLast_append_iff.mpr (.inr ⟨last, ?_⟩), asked⟩
        rw [← named, ← (Declaration.registrationBy_eq_some_iff.mp asked).1]
        exact different.symm
    · -- The last of its name is the further declaration, or one of another name.
      rintro ⟨declaration, last, asked⟩
      rcases isLast_append_iff.mp last with rfl | ⟨last, different⟩
      · exact .inl (Option.some.inj (asked.symm.trans asks))
      · refine .inr ⟨⟨declaration, last, asked⟩, ?_⟩
        rw [named, (Declaration.registrationBy_eq_some_iff.mp asked).1]
        exact different.symm

/-- The first registration of which something holds is the one declared first. -/
theorem firstOf_iff {Holds : Registration → Prop} :
    FirstOf Holds registry.entries entry ↔ Foremost compile declarations Holds entry := by
  have order := carries.order
  simp only [Foremost, ← carries.defined]
  constructor
  · -- Whatever else holds stands behind the first, so its name is declared later.
    rintro ⟨before, after, split, holds, others⟩
    rw [split, List.map_append, List.map_cons, List.pairwise_append, List.pairwise_cons] at order
    obtain ⟨_, ⟨behind, _⟩, _⟩ := order
    rw [split]
    refine ⟨List.mem_append_right _ List.mem_cons_self, holds, fun other member held => ?_⟩
    rcases List.mem_append.mp member with front | back
    · exact absurd held (others other front)
    · rcases List.mem_cons.mp back with rfl | later
      · exact Nat.le_refl _
      · exact Nat.le_of_lt (behind other.name (List.mem_map_of_mem later))
  · -- Whatever stands before the first is declared earlier, so it does not hold.
    rintro ⟨member, holds, least⟩
    obtain ⟨before, after, split⟩ := List.append_of_mem member
    refine ⟨before, after, split, holds, fun earlier front held => ?_⟩
    rw [split] at order least
    have behind := least earlier (List.mem_append_left _ front) held
    rw [List.map_append, List.map_cons, List.pairwise_append] at order
    have ahead := order.2.2 earlier.name (List.mem_map_of_mem front) entry.name List.mem_cons_self
    omega

/-- A type is won by the first declared name, and without one by the first expression. -/
theorem winner_eq_some_iff : registry.winner matched typeName = some entry ↔
    Foremost compile declarations (·.Names typeName) entry ∨
      (∀ other, Defines compile declarations other → ¬ other.Names typeName) ∧
        Foremost compile declarations (·.Expresses matched typeName) entry := by
  -- Both courses of a look-up take the first registration of which something holds.
  simp only [Registry.winner_eq_some_iff, carries.firstOf_iff, carries.defined]

end Carries

/-- What is registered in turn carries every declaration. -/
theorem carries_registryBy (built : registryBy compile declarations = .ok registry) :
    Carries compile declarations registry := by
  -- The induction is on the declarations, the last of which enters what those before it leave.
  induction declarations using List.reverseRecOn generalizing registry with
  | nil =>
    obtain rfl := Except.ok.inj built
    exact .empty
  | append_singleton declarations further ih =>
    rw [registryBy, registerAllBy_append] at built
    cases reached : registerAllBy compile 0 .empty declarations with
    | error _ =>
      rw [reached] at built
      cases built
    | ok before =>
      rw [reached] at built
      simp only [Except.bind, registerAllBy] at built
      -- Since there is a registry, the last declaration has been accepted.
      rcases accept_cases compile (0 + declarations.length) further with
        ⟨registration, accepted, _, asks⟩ | ⟨error, refused, _⟩
      · rw [accepted] at built
        obtain rfl := Except.ok.inj built
        exact (ih reached).register asks
      · rw [refused] at built
        cases built

/--
A configuration's registry is exact.

It is built exactly if every declaration has a name and a valid pattern.
Otherwise the first declaration that lacks either is reported, and its name before its pattern.
The names stand in the order in which they first occur, each with the last definition under it.
That order decides every look-up over those definitions.
-/
theorem registry_exact (configuration : Configuration) :
    configuration.registry = registryBy Regex.compile? configuration.declarations ∧
      ∀ compile : String → Option Regex,
        let declarations := configuration.declarations
        let built := registryBy compile declarations
        ((∃ registry, built = .ok registry) ↔
          ∀ declaration ∈ declarations, declaration.Admissible compile) ∧
        (∀ error, built = .error error ↔
          ∃ before declaration after, declarations = before ++ declaration :: after ∧
            (∀ earlier ∈ before, earlier.Admissible compile) ∧
            declaration.Refused compile before.length error) ∧
        ∀ registry, built = .ok registry →
          registry.entries.map (·.name) = (declarations.map (·.name)).eraseDups ∧
          (∀ entry, entry ∈ registry.entries ↔
            ∃ declaration, IsLast declarations declaration ∧ entry.name = declaration.name ∧
              declaration.patternBy compile = some entry.pattern ∧
              entry.formatter = declaration.formatter) ∧
          ∀ typeName, registry.lookup typeName = registry.winner Regex.isMatch typeName ∧
            ∀ matched entry, registry.winner matched typeName = some entry ↔
              Foremost compile declarations (·.Names typeName) entry ∨
                (∀ other, Defines compile declarations other → ¬ other.Names typeName) ∧
                  Foremost compile declarations (·.Expresses matched typeName) entry := by
  refine ⟨registry_eq_registryBy configuration, fun compile => ⟨registerAllBy_isOk_iff, ?_, ?_⟩⟩
  · -- Positions are counted from zero.
    intro error
    rw [registryBy, registerAllBy_eq_error_iff]
    simp only [Nat.zero_add]
  · -- What the registry carries says all that is said of the names and the look-ups.
    intro registry built
    have carries := carries_registryBy built
    refine ⟨carries.names, fun entry => ?_, fun typeName =>
      ⟨Registry.lookup_eq_winner registry typeName, fun matched entry =>
        carries.winner_eq_some_iff⟩⟩
    simp only [carries.defined, Defines, Declaration.registrationBy_eq_some_iff]

end Configuration

end Inspection
