import BuildScript.Make.Conversion
import BuildScript.Script.Source

/-!
# Converting a script file into a Makefile

All warnings are shown before the Makefile is written, and success is announced only after it has
been written.
-/

namespace BuildScript.Make

/-- The Makefile that is written when no other is named. -/
def defaultMakefile : Path := ⟨"Makefile"⟩

/-- Shows the warnings of a conversion. -/
def showWarnings (script : Path) : List (Nat × ConversionError) → Plan Unit
  | [] => return ()
  | (number, warning) :: rest => do
    Plan.note .debug s!"{script}:{number}: {warning.message}"
    Plan.complain s!"warning: {script}:{number}: {warning.message}"
    showWarnings script rest

/-- Writes a converted script to `output` and announces it. -/
def save (script output : Path) (conversion : Conversion) : Plan (Except Fault Conversion) := do
  match ← Plan.request (.store output conversion.makefile.toUTF8) with
  | .error fault => return .error (fault.under s!"Failed to create {output}")
  | .ok () =>
    Plan.note .info s!"{script} -> {output} ({conversion.warnings.length} line(s) skipped)"
    Plan.print s!"Makefile generated: {output}"
    return .ok conversion

/-- Converts the script at `script` and writes the Makefile to `output`. -/
def convertFile (script output : Path) : Plan (Except Fault Conversion) := do
  match ← Script.readSource script with
  | .error fault => return .error fault
  | .ok source =>
    match convert source with
    | .error .refused =>
      return .error ((Fault.ofMessage refusal).under s!"Failed to translate {script}")
    | .ok conversion =>
      showWarnings script conversion.warnings
      save script output conversion

end BuildScript.Make
