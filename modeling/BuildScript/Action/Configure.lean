import BuildScript.Action.Basic

/-!
# Actions on the settings

Calls that define variables, flags, libraries and search paths, list them, choose the compiler,
and put everything back to the start.
-/

namespace BuildScript.Action

open Script

/-- Applies a change of the settings that takes no argument. -/
def change (f : Settings → Settings) : Action Flow := do
  modify f
  return .proceed

/-- Applies a change of the settings that takes one argument. -/
def changeBy (f : Settings → String → Settings) (call : Call) : Action Flow := do
  let [text] := call.args | wrongCount call 1
  change (f · text)

/-- Removes something from the settings; it is an error if it is not there. -/
def remove (f : Settings → String → Bool × Settings) (missing : String → String) (call : Call) :
    Action Flow := do
  let [name] := call.args | wrongCount call 1
  let (found, settings) := f (← get) name
  set settings
  if found then return .proceed else fail (missing name)

/-- Lists items of the settings under a title. -/
def listItems (title : String) (items : Settings → List String) : Action Flow := do
  print title
  printAll ((items (← get)).map fun item => s!"  {item}")
  return .proceed

/-! ## Variables -/

def defineVariable (call : Call) : Action Flow := do
  let [name, value] := call.args | wrongCount call 2
  change (·.defineVariable name value)

def removeVariable : Call → Action Flow :=
  remove Settings.removeVariable fun name => s!"Variable '{name}' is not defined"

def listVariables : Action Flow :=
  listItems "Defined variables:" fun s => s.definitions.entries.map Settings.variableLine

/-! ## Flags -/

def addFlag : Call → Action Flow := changeBy Settings.addFlag

def removeFlag : Call → Action Flow :=
  remove Settings.removeFlag fun flag => s!"Flag '{flag}' is not set"

def listFlags : Action Flow := listItems "Flags:" Settings.flags

/-- The flags that make a program watch its memory. -/
def memorySanitizerFlags : List String := ["-fsanitize=address", "-fno-omit-frame-pointer"]

/-- The flags that ask for warnings. -/
def warningFlags : List String := ["-Wall", "-Wextra", "-Wpedantic"]

/-- Adds several flags. -/
def addFlags (flags : List String) : Action Flow :=
  change fun s => flags.foldl Settings.addFlag s

/-! ## Libraries and search paths -/

def defineLibrary : Call → Action Flow := changeBy Settings.addLibrary

def defineInclude : Call → Action Flow := changeBy Settings.addInclude

def defineLibraryPath : Call → Action Flow := changeBy Settings.addLibraryPath

def listLibraries : Action Flow := listItems "Libraries:" Settings.libraries

/-! ## Compiler and switches -/

def enableVerbose : Action Flow := change (·.setVerbose true)

def chooseWindowsCompiler : Action Flow := change (·.setCompiler Settings.windowsCompiler)

def resetSettings : Action Flow := change fun _ => .initial

end BuildScript.Action
