import BuildScript.Action.Basic

/-!
# Files and directories

Questions about files, the build directory, and files that a build writes about itself.

The build directory is removed or copied only after the host has confirmed that it is a directory.
It becomes the build directory only once the host has created it.
-/

namespace BuildScript.Action

open Script

/-- Says whether there is something at a path. -/
def fileExists (call : Call) : Action Flow := do
  let [path] := call.args | wrongCount call 1
  let found ← attempt s!"Failed to check whether {path} exists"
    (Plan.request (.pathExists (Path.ofString path)))
  print (if found then s!"File '{path}' exists" else s!"File '{path}' does not exist")
  return .proceed

/-- Lists the entries of a directory in order of their names. -/
def listFiles (call : Call) : Action Flow := do
  let [dir] := call.args | wrongCount call 1
  let names ← attempt s!"Failed to list {dir}"
    (Plan.request (.listDirectory (Path.ofString dir)))
  print s!"Files in {dir}:"
  printAll ((names.mergeSort fun a b => decide (a ≤ b)).map fun name => s!"  {name}")
  return .proceed

/-! ## The build directory -/

/-- Creates a directory for the build. -/
def createBuildDirectory (dir : Path) : Action Unit :=
  attempt s!"Failed to create build directory {dir}" (Plan.request (.createDirectories dir))

/-- Chooses the build directory. -/
def setBuildDirectory (call : Call) : Action Flow := do
  let [dir] := call.args | wrongCount call 1
  let dir := Path.ofString dir
  createBuildDirectory dir
  if (← get).verbose then print s!"Build directory set to {dir}"
  modify (·.setBuildDir dir)
  return .proceed

/-- The build directory, which must have been chosen. -/
def buildDirectory : Action Path := do
  match CallError.demand "No build directory set, use set_build_directory first"
      (← get).buildDir with
  | .ok dir => return dir
  | .error error => throw error

/-- Gives up unless there is a directory at the path. -/
def ensureDirectory (dir : Path) : Action Unit := do
  unless ← attempt s!"Failed to inspect {dir}" (Plan.request (.isDirectory dir)) do
    fail s!"Build directory {dir} is missing or not a directory"

/-- Empties the build directory. -/
def clearBuildDirectory : Action Flow := do
  let dir ← buildDirectory
  let found ← attempt s!"Failed to check whether {dir} exists" (Plan.request (.pathExists dir))
  if found then
    ensureDirectory dir
    attempt s!"Failed to remove {dir}" (Plan.request (.removeDirectory dir))
  createBuildDirectory dir
  print s!"Cleared build directory {dir}"
  return .proceed

/-- Copies the build directory. -/
def backupBuildDirectory (call : Call) : Action Flow := do
  let [target] := call.args | wrongCount call 1
  let dir ← buildDirectory
  let target := Path.ofString target
  ensureDirectory dir
  attempt s!"Failed to back up {dir} to {target}" (Plan.request (.copyDirectory dir target))
  print s!"Backed up {dir} to {target}"
  return .proceed

/-! ## Files about the build -/

/-- Writes the report of the settings to a file. -/
def generateReport (call : Call) : Action Flow := do
  let [file] := call.args | wrongCount call 1
  let path := Path.ofString file
  let report := (← get).report
  attempt s!"Failed to write build report to {path}"
    (Plan.request (.store path report.toUTF8))
  print s!"Build report written to {path}"
  return .proceed

/-- The file that holds the time of the build. -/
def timestampFile : String := "build_timestamp.txt"

/-- Writes the time to a file in the build directory. -/
def generateTimestamp : Action Flow := do
  let path := (← get).outputPath timestampFile
  let seconds ← (liftM (Plan.request .clock) : Action String)
  let content := s!"Build timestamp: {seconds}\n"
  attempt s!"Failed to write {path}" (Plan.request (.store path content.toUTF8))
  return .proceed

end BuildScript.Action
