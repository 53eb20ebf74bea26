import BuildScript.Action.Basic
import BuildScript.Text.Blank
import BuildScript.Text.Quoted

/-!
# Compiling

One source file is compiled with the compiler and the arguments of the settings. A quiet
compilation passes on the compiler's error output when it fails and nothing else; otherwise
progress and all output of the compiler are shown. Verbose settings show the command line in
either case.
-/

namespace BuildScript.Action

open Script

/-- The line that announces a compilation, if there is one. -/
def compileBanner (quiet : Bool) (settings : Settings) (source : String) (output : Path) :
    Option String :=
  if settings.verbose then
    some (String.intercalate " " (settings.compiler :: settings.compileArgs source output))
  else if quiet then none
  else some s!"Compiling {source} -> {output}"

/-- Shows what a compiler printed. -/
def showCompletion (quiet : Bool) (result : Completion) : Action Unit := do
  if !quiet && result.output != "" then print (Text.trimmedEnd result.output)
  if (!quiet || result.status != 0) && result.errors != "" then
    complain (Text.trimmedEnd result.errors)

/-- Compiles a source file. -/
def compile (quiet : Bool) (call : Call) : Action Flow := do
  let [source, output] := call.args | wrongCount call 2
  let settings ← get
  let compiler := settings.compiler
  let output := settings.outputPath output
  let args := settings.compileArgs source output
  printAll (compileBanner quiet settings source output).toList
  let shown := Text.quotedList args
  note .debug s!"running {compiler} {shown}"
  let result ← attempt s!"Failed to run {compiler}" (Plan.request (.runProgram compiler args))
  showCompletion quiet result
  if result.status != 0 then
    fail s!"Compilation of {source} failed with exit code {result.status}"
  return .proceed

end BuildScript.Action
