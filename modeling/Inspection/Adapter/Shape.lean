import Inspection.Json.Reader

/-! A shape says which JSON values an argument may hold; members that it does not name do not matter. -/

namespace Inspection.Adapter

mutual

/-- What an argument may hold. -/
inductive Shape where
  /-- A signed number of 64 bits. -/
  | integer
  /-- A signed number of 32 bits. -/
  | shortInteger
  | truth
  | text
  /-- One of some words, bare or as the only member of an object that holds nothing. -/
  | word (choices : List String)
  | either (first second : Shape)
  | anything
  | list (element : Shape)
  | record (parts : List Part)
  /-- A record whose further members count too, so that it cannot be listed without names. -/
  | openRecord (parts : List Part)

/-- A part of a record. -/
inductive Part where
  | required (name : String) (shape : Shape)
  /-- A part that may be missing or null. -/
  | optional (name : String) (shape : Shape)

end

/-- The name of a part. -/
def Part.name : Part → String
  | required name _ | optional name _ => name

/-- The word that a value stands for. -/
def wordOf? : Json → Option String
  | .string word => word
  | .object [(some word, .null)] | .object [(some word, .object [])] => some word
  | _ => none

mutual

/-- Whether a value has a shape; a record may be listed without names if no part is left out. -/
def Shape.accepts (value : Json) : Shape → Bool
  | .integer => value.integer64?.isSome
  | .shortInteger => value.integer64?.any fun amount => -0x80000000 ≤ amount && amount < 0x80000000
  | .truth => value.bool?.isSome
  | .text => value.text?.isSome
  | .word choices => (wordOf? value).any choices.contains
  | .either first second => first.accepts value || second.accepts value
  | .anything => true
  | .list element =>
    match value with
    | .array elements => elements.all fun inner => element.accepts inner
    | _ => false
  | .record parts =>
    match value with
    | .object members => partsAccept members parts
    | .array elements => partsAcceptListed elements parts
    | _ => false
  | .openRecord parts =>
    match value with
    | .object members => partsAccept members parts
    | _ => false

/-- Whether a part may hold a value, or nothing. -/
def Part.accepts (value : Option Json) : Part → Bool
  | .required _ shape =>
    match value with
    | some value => shape.accepts value
    | none => false
  | .optional _ shape =>
    match value with
    | some .null | none => true
    | some value => shape.accepts value

/-- Whether members have the shapes of the parts they name, none of them twice. -/
def partsAccept (members : List (Option String × Json)) : List Part → Bool
  | [] => true
  | part :: rest =>
    (match members.filter fun member => member.1 == some part.name with
      | [] => part.accepts none
      | [member] => part.accepts (some member.2)
      | _ :: _ :: _ => false)
      && partsAccept members rest

/-- Whether elements have the shapes of the parts in their order. -/
def partsAcceptListed (elements : List Json) : List Part → Bool
  | [] => elements.isEmpty
  | part :: rest =>
    match elements with
    | [] => false
    | element :: elements => part.accepts (some element) && partsAcceptListed elements rest

end

/-- The value of a part in a record of either form. -/
def partOf? (parts : List Part) (name : String) : Json → Option Json
  | .array elements => elements[parts.findIdx fun part => part.name == name]?
  | value => value.member? name

end Inspection.Adapter
