/-! Substitution replaces every occurrence of a mark, scanning once from the left. -/

namespace Inspection.Text

/-- Replaces a mark, skipping the letters of an occurrence that was just replaced. -/
def substituteFrom (mark replacement : List Char) (skipped : Nat) : List Char → List Char
  | [] => []
  | letter :: rest =>
    match skipped with
    | further + 1 => substituteFrom mark replacement further rest
    | 0 =>
      if mark.isPrefixOf (letter :: rest) then
        replacement ++ substituteFrom mark replacement (mark.length - 1) rest
      else letter :: substituteFrom mark replacement 0 rest

/-- Replaces every occurrence of a nonempty mark. -/
def substitute (mark replacement text : String) : String :=
  String.ofList (substituteFrom mark.toList replacement.toList 0 text.toList)

end Inspection.Text
