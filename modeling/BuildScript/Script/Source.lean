import BuildScript.Host.Plan
import BuildScript.Text.Utf8

/-!
# Reading a script file

A script file must be readable and valid UTF-8; nothing of it is used otherwise.
-/

namespace BuildScript.Script

/-- The text of the script at `path`. -/
def readSource (path : Path) : Plan (Except Fault String) := do
  match ← Plan.request (.load path) with
  | .error fault => return .error (fault.under s!"Failed to open build file {path}")
  | .ok bytes =>
    match Text.Utf8.decode bytes with
    | .error fault =>
      return .error ((Fault.ofMessage fault.message).under
        s!"Build file {path} is not valid UTF-8")
    | .ok source => return .ok source

end BuildScript.Script
