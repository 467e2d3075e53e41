import Inspection.Json.Lexer

/-! Parsing keeps the open containers on a list, so any depth of nesting is one pass. -/

namespace Inspection.Json

namespace Parser

/-- A container that is still open, with its finished parts newest first. -/
inductive Container where
  | array (elements : List Json)
  | object (members : List (Option String × Json))
  /-- An object whose latest member still lacks its value. -/
  | awaiting (name : Option String) (members : List (Option String × Json))

/-- What the grammar admits next. -/
inductive Expectation where
  | value
  | valueOrClose
  | separator
  | name
  | nameOrClose
  | colon

/-- The open containers, innermost first, and what may follow. -/
structure State where
  containers : List Container
  expected : Expectation
  /-- The outermost value, once it is complete. -/
  result : Option Json

/-- Before the first token a value is expected. -/
def start : State := ⟨[], .value, none⟩

/-- Hands a complete value to the innermost open container. -/
def deliver (containers : List Container) (value : Json) : Option State :=
  match containers with
  | [] => some ⟨[], .separator, some value⟩
  | .array elements :: rest => some ⟨.array (value :: elements) :: rest, .separator, none⟩
  | .awaiting name members :: rest =>
    some ⟨.object ((name, value) :: members) :: rest, .separator, none⟩
  | .object _ :: _ => none

/-- Opens a container where a value may stand. -/
def enter (state : State) (container : Container) (expected : Expectation) : Option State :=
  match state.expected with
  | .value | .valueOrClose => some ⟨container :: state.containers, expected, none⟩
  | .separator | .name | .nameOrClose | .colon => none

/-- One token further; after the outermost value nothing may follow. -/
def step (state : State) (token : Token) : Option State :=
  match token with
  | .openArray => enter state (.array []) .valueOrClose
  | .openObject => enter state (.object []) .nameOrClose
  | .closeArray =>
    match state.containers, state.expected with
    | .array elements :: rest, .separator | .array elements :: rest, .valueOrClose =>
      deliver rest (.array elements.reverse)
    | _, _ => none
  | .closeObject =>
    match state.containers, state.expected with
    | .object members :: rest, .separator | .object members :: rest, .nameOrClose =>
      deliver rest (.object members.reverse)
    | _, _ => none
  | .comma =>
    match state.containers, state.expected with
    | .array _ :: _, .separator => some { state with expected := .value }
    | .object _ :: _, .separator => some { state with expected := .name }
    | _, _ => none
  | .colon =>
    match state.expected with
    | .colon => some { state with expected := .value }
    | _ => none
  | .scalar value =>
    match state.expected with
    | .value | .valueOrClose => deliver state.containers value
    | .name | .nameOrClose =>
      match value, state.containers with
      | .string name, .object members :: rest =>
        some ⟨.awaiting name members :: rest, .colon, none⟩
      | _, _ => none
    | .separator | .colon => none

end Parser

/-- The value a text denotes, if it denotes exactly one. -/
def parseList? (letters : List Char) : Option Json := do
  let tokens ← tokens? letters
  let state ← tokens.foldlM Parser.step Parser.start
  state.result

/-- The value a text denotes, if it denotes exactly one. -/
def parse? (text : String) : Option Json := parseList? text.toList

end Inspection.Json
