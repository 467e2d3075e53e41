import Inspection.Toml

/-! A document under construction grows by statements, none of which defines anything twice. -/

namespace Inspection.Toml

/-- How a table came to be. -/
inductive Origin where
  /-- A longer header needed it on its way. -/
  | implied
  /-- A dotted name needed it on its way. -/
  | dotted
  /-- A header of its own opened it. -/
  | stated
  deriving DecidableEq, Repr

/-- What a name stands for while the document is read. -/
inductive Draft where
  /-- A complete value, to which nothing can be added. -/
  | value (content : Toml)
  | table (origin : Origin) (entries : List (String × Draft))
  /-- Tables under one name, newest first. -/
  | tables (elements : List (List (String × Draft)))

namespace Draft

/-- The names of a table with what they stand for. -/
abbrev Entries := List (String × Draft)

/-- Lets a name that is there already stand for something else. -/
def replace (name : String) (draft : Draft) (entries : Entries) : Entries :=
  entries.map fun entry => if entry.1 == name then (name, draft) else entry

/-- How a walk along names enters a table: what it creates and what it may pass. -/
structure Walk where
  /-- The origin of the tables that the walk creates. -/
  creates : Origin
  /-- Whether the walk may pass through tables that have headers. -/
  passesStated : Bool

/-- The walk to the table that a header names. -/
def Walk.header : Walk := ⟨.implied, true⟩

/-- The walk along the leading parts of a dotted name. -/
def Walk.dotted : Walk := ⟨.dotted, false⟩

/-- Changes the entries at the end of a walk; of tables under one name it enters the newest. -/
def change (walk : Walk) (act : Origin → Entries → Option Entries) (origin : Origin) :
    List String → Entries → Option Entries
  | [], entries => act origin entries
  | name :: path, entries =>
    match entries.lookup name with
    | none => do
      let inner ← change walk act walk.creates path []
      return entries ++ [(name, .table walk.creates inner)]
    | some (.value _) | some (.tables []) => none
    | some (.table found inner) =>
      if found = .stated ∧ !walk.passesStated then none
      else do return replace name (.table found (← change walk act found path inner)) entries
    | some (.tables (newest :: older)) => do
      return replace name (.tables ((← change walk act .stated path newest) :: older)) entries

/-- Opens a table; one that longer headers have implied may still be opened once. -/
def open? (entries : Entries) (path : List String) (name : String) : Option Entries :=
  change .header (fun _ found =>
    match found.lookup name with
    | none => some (found ++ [(name, .table .stated [])])
    | some (.table .implied inner) => some (replace name (.table .stated inner) found)
    | some (.table .dotted _) | some (.table .stated _) | some (.value _) | some (.tables _) => none)
    .stated path entries

/-- Opens a further table under one name. -/
def openElement? (entries : Entries) (path : List String) (name : String) : Option Entries :=
  change .header (fun _ found =>
    match found.lookup name with
    | none => some (found ++ [(name, .tables [[]])])
    | some (.tables older) => some (replace name (.tables ([] :: older)) found)
    | some (.table _ _) | some (.value _) => none)
    .stated path entries

/-- Assigns a value to a new name; only tables of dotted names can be added to by dotted names. -/
def assign? (base path : List String) (name : String) (value : Toml) (entries : Entries) :
    Option Entries :=
  change .header (fun _ => change .dotted (fun origin found =>
    if (!path.isEmpty && origin != .dotted) || (found.lookup name).isSome then none
    else some (found ++ [(name, .value value)])) .stated path)
    .stated base entries

mutual

/-- The value that a finished draft stands for. -/
def finish : Draft → Toml
  | value content => content
  | table _ entries => .table (finishEntries entries)
  | tables elements => .array (finishTables elements).reverse

/-- The values that the names of a finished table stand for. -/
def finishEntries : List (String × Draft) → List (String × Toml)
  | [] => []
  | (name, draft) :: rest => (name, finish draft) :: finishEntries rest

/-- The tables that stand under one name. -/
def finishTables : List (List (String × Draft)) → List Toml
  | [] => []
  | entries :: rest => .table (finishEntries entries) :: finishTables rest

end

end Draft

end Inspection.Toml
