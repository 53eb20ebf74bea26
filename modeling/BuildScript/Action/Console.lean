import BuildScript.Action.Basic
import BuildScript.ExitCode

/-!
# Messages and the end of a script
-/

namespace BuildScript.Action

open Script

/-- Shows a message. -/
def printLine (call : Call) : Action Flow := do
  let [text] := call.args | wrongCount call 1
  print text
  return .proceed

/-- A text that terminals show in red. -/
def inRed (text : String) : String := s!"\x1b[0;31m{text}\x1b[0m"

/-- Shows an error message. -/
def printErrorLine (call : Call) : Action Flow := do
  let [text] := call.args | wrongCount call 1
  complain (inRed text)
  return .proceed

/-- Ends the script. -/
def exit (call : Call) : Action Flow := do
  let [text] := call.args | wrongCount call 1
  return .exit (ExitCode.ofString text)

end BuildScript.Action
