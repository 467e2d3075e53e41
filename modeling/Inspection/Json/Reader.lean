import Inspection.Json

/-! Typed reading refuses duplicates, wrong types and nesting that is too deep. -/

namespace Inspection.Json

/-- How many containers a reader may open inside one another. -/
def nestingLimit : Nat := 127

/-- Opens a container if the nesting allows one more. -/
def descend? (depth : Nat) : Option Nat :=
  match depth with
  | 0 => none
  | deeper + 1 => some deeper

/-- A required part of a record. -/
def required (read : Json → Option α) : Option Json → Option α
  | some value => read value
  | none => none

/-- A part of a record that a default replaces when it is missing. -/
def orDefault (default : α) (read : Json → Option α) : Option Json → Option α
  | some value => read value
  | none => some default

/-- A value that may be null. -/
def nullable (read : Json → Option α) : Json → Option (Option α)
  | null => some none
  | value => (read value).map some

/-- The values of a list of members at the given names, in the order of the names. -/
def pick? (names : List String) (members : List (Option String × Json)) :
    Option (List (Option Json)) :=
  -- Every name must have been readable, and a known one may stand only once.
  if members.all (fun pair => pair.1.isSome) then
    names.mapM fun name =>
      match members.filter (fun pair => pair.1 == some name) with
      | [] => some none
      | [pair] => some (some pair.2)
      | _ :: _ :: _ => none
  else none

/-- The parts of a record, written as an object or as an array in the order of the names. -/
def fields? (names : List String) (value : Json) : Option (List (Option Json)) :=
  match value with
  | object members => pick? names members
  | array elements =>
    if elements.length ≤ names.length then
      some (elements.map some ++ List.replicate (names.length - elements.length) none)
    else none
  | null | bool _ | number _ | string _ => none

/-- The elements of an array, each one container deeper. -/
def list? (read : Nat → Json → Option α) (depth : Nat) (value : Json) : Option (List α) := do
  let below ← descend? depth
  (← value.elements?).mapM (read below)

/-- One of a set of words, bare or as the only member of an object that holds null. -/
def word? (decode : String → Option α) (depth : Nat) : Json → Option α
  | string (some word) => decode word
  | object [(some word, null)] => do
    let _ ← descend? depth
    decode word
  | _ => none

end Inspection.Json
