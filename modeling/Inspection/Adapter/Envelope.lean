import Inspection.Text.Blank
import Inspection.Text.Decimal

/-! An envelope announces the number of its bytes, so that messages on a stream keep apart. -/

namespace Inspection.Adapter.Envelope

/-- The text of some bytes, if they are UTF-8. -/
def textOf? (bytes : List UInt8) : Option String := String.fromUTF8? ⟨bytes.toArray⟩

/-- The first line with its line feed, and what follows it. -/
def splitLine (bytes : List UInt8) : List UInt8 × List UInt8 :=
  let line := bytes.takeWhile (· != 10)
  (bytes.take (line.length + 1), bytes.drop (line.length + 1))

/-- The number of bytes that a header line announces. -/
def announced? (line : String) : Option Nat :=
  match (Text.trimEndList Text.isBlank line.toList).splitOn ':' with
  | [name, count] =>
    if name = "Content-Length".toList then Text.natural64? (Text.trimList count) else none
  | _ => none

/-- The content of the first envelope, and what follows it; the line after the header is skipped. -/
def open? (bytes : List UInt8) : Option (String × List UInt8) := do
  let (header, afterHeader) := splitLine bytes
  let count ← announced? (← textOf? header)
  let (separator, content) := splitLine afterHeader
  let _ ← textOf? separator
  if separator.isEmpty || content.length < count then none
  else return (← textOf? (content.take count), content.drop count)

/-- Puts a text into an envelope. -/
def wrap (content : String) : String :=
  "Content-Length: " ++ toString content.utf8ByteSize ++ "\r\n\r\n" ++ content ++ "\r\n"

/-- The contents of the envelopes on a stream, up to the first that cannot be opened. -/
def contents (bytes : List UInt8) : List String :=
  match open? bytes with
  | none => []
  | some (content, rest) =>
    if _shorter : rest.length < bytes.length then content :: contents rest else [content]
termination_by bytes.length

end Inspection.Adapter.Envelope
