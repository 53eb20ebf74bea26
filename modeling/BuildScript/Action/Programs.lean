import BuildScript.Action.Basic
import BuildScript.Text.Blank

/-!
# Programs of the host

Finding programs, asking the package database for compiler arguments, running command lines,
showing notifications and installing packages.
-/

namespace BuildScript.Action

open Script

/-- Gives up unless a program is there. -/
def checkTool (call : Call) : Action Flow := do
  let [tool] := call.args | wrongCount call 1
  let path ← attempt s!"Required tool '{tool}' was not found" (Plan.request (.findProgram tool))
  print s!"Found {tool}: {path}"
  return .proceed

/-! ## The package database -/

/-- The program that knows the compiler arguments of packages. -/
def packageDatabase : String := "pkg-config"

/-- The arguments that the package database lists for a package. -/
def packageArguments (query package : String) : Action (List String) := do
  let result ← attempt s!"Failed to run {packageDatabase}"
    (Plan.request (.runProgram packageDatabase [query, package]))
  if result.status != 0 then
    let reason := Text.trimmed result.errors
    fail s!"{packageDatabase} could not find '{package}': {reason}"
  return Text.words result.output

/-- Adds the linker flags of a package. -/
def findLibrary (call : Call) : Action Flow := do
  let [name] := call.args | wrongCount call 1
  let flags ← packageArguments "--libs" name
  modify fun s => flags.foldl Settings.addLinkFlag s
  print s!"Found library {name}"
  return .proceed

/-- Adds the compiler flags of a package. -/
def findFlags (call : Call) : Action Flow := do
  let [name] := call.args | wrongCount call 1
  let flags ← packageArguments "--cflags" name
  modify fun s => flags.foldl Settings.addFlag s
  return .proceed

/-! ## Command lines and notifications -/

/-- Runs a command line. -/
def shellCommand (call : Call) : Action Flow := do
  let [command] := call.args | wrongCount call 1
  if (← get).verbose then print s!"$ {command}"
  let status ← attempt s!"Failed to run `{command}`" (Plan.request (.runShell command))
  if status != 0 then fail s!"Command `{command}` exited with status {status}"
  return .proceed

/-- The program that shows notifications. -/
def notifier : String := "notify-send"

/-- Shows a notification. -/
def sendNotification (call : Call) : Action Flow := do
  let [title, message, urgency] := call.args | wrongCount call 3
  let result ← attempt s!"Failed to run {notifier}"
    (Plan.request (.runProgram notifier ["-u", urgency, title, message]))
  if result.status != 0 then
    let reason := Text.trimmed result.errors
    fail s!"Failed to send notification: {reason}"
  return .proceed

/-! ## Packages -/

/-- Installs a package. -/
def install (name : String) : Action Flow := do
  print s!"Installing {name}..."
  attempt s!"Failed to install {name}" (Plan.request (.installPackage name))
  print s!"Installed {name}"
  return .proceed

/-- Installs the package of the call. -/
def installDependency (call : Call) : Action Flow := do
  let [name] := call.args | wrongCount call 1
  install name

/-- Installs the package of the call unless there is a program of that name. -/
def checkAndInstall (call : Call) : Action Flow := do
  let [name] := call.args | wrongCount call 1
  match ← (liftM (Plan.request (.findProgram name)) : Action (Except Fault Path)) with
  | .ok _ =>
    print s!"{name} is already installed"
    return .proceed
  | .error _ => install name

end BuildScript.Action
