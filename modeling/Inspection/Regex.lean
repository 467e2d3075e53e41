import Inspection.Regex.Automaton
import Inspection.Regex.Compilation
import Inspection.Regex.Parser

/-! A regular expression is compiled once and then asked whether it matches somewhere in a text. -/

namespace Inspection

/-- A pattern that compiles, together with its program. -/
structure Regex where
  source : String
  program : Regex.Program

namespace Regex

/-- Compiles a pattern, unless it is malformed or too large. -/
def compile? (source : String) : Option Regex := do
  let expression ← parse? source
  let (program, _) ← expression.program? .initial
  if program.fits then some ⟨source, program⟩ else none

/-- Whether the expression matches somewhere in a text. -/
def isMatch (regex : Regex) (text : String) : Bool := regex.program.isMatch text.toList

end Regex

end Inspection
