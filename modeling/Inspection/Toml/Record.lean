import Inspection.Toml

/-! A record is read from a table, or from an array that lists its parts in their order. -/

namespace Inspection.Toml

/-- The written parts of a record, in the order of their names. -/
structure Parts where
  /-- The record is a list of parts, so that no name says which one is missing. -/
  listed : Bool
  values : List (Option Toml)

/-- The parts of a record at the given names; other names and further elements do not matter. -/
def parts? (names : List String) : Toml → Option Parts
  | table entries => some ⟨false, names.map fun name => entries.lookup name⟩
  | array elements =>
    some ⟨true, (elements.take names.length).map some
      ++ List.replicate (names.length - elements.length) none⟩
  -- A moment is a table whose only name no record knows.
  | moment _ => some ⟨false, names.map fun _ => none⟩
  | text _ | integer _ | float _ | truth _ => none

/-- A required part of a record. -/
def required (read : Toml → Option α) : Option Toml → Option α
  | some value => read value
  | none => none

/-- A part of a record that a default replaces when it is missing. -/
def orDefault (default : α) (read : Toml → Option α) : Option Toml → Option α
  | some value => read value
  | none => some default

/-- A part of a record that may be missing. -/
def orNothing (read : Toml → Option α) : Option Toml → Option (Option α)
  | some value => some <$> read value
  | none => some none

end Inspection.Toml
