import BuildScript.Action.Compile
import BuildScript.Action.Configure
import BuildScript.Action.Console
import BuildScript.Action.Files
import BuildScript.Action.Programs
import BuildScript.Directive
import BuildScript.Make.File

/-!
# The action of each directive

Directives without arguments ignore whatever arguments a call has; all others check the number of
their arguments themselves, since a vocabulary may bind them with another arity.
-/

namespace BuildScript

open Script

/-- Writes the Makefile of the running script. -/
def Action.convertToMake (script : Path) : Action Flow := do
  let _ ← attempt "Failed to convert to Makefile" (Make.convertFile script Make.defaultMakefile)
  return .proceed

/-- What a call of a directive does in the script at `script`. -/
def Directive.action (script : Path) (call : Call) : Directive → Action Flow
  | defineVariable => Action.defineVariable call
  | removeVariable => Action.removeVariable call
  | listDefinedVariables => Action.listVariables
  | defineLibrary => Action.defineLibrary call
  | defineInclude => Action.defineInclude call
  | defineLibraryPath => Action.defineLibraryPath call
  | printLibraries => Action.listLibraries
  | addFlag => Action.addFlag call
  | removeFlag => Action.removeFlag call
  | printFlags => Action.listFlags
  | addMemorySanitizer => Action.addFlags Action.memorySanitizerFlags
  | addCompilerWarnings => Action.addFlags Action.warningFlags
  | enableVerbose => Action.enableVerbose
  | winCompiler => Action.chooseWindowsCompiler
  | resetSettings => Action.resetSettings
  | compile => Action.compile false call
  | compileSilently => Action.compile true call
  | printLine => Action.printLine call
  | printErrorLine => Action.printErrorLine call
  | exit => Action.exit call
  | fileExists => Action.fileExists call
  | setBuildDirectory => Action.setBuildDirectory call
  | clearBuildDirectory => Action.clearBuildDirectory
  | backupBuildDirectory => Action.backupBuildDirectory call
  | listFilesInDirectory => Action.listFiles call
  | generateBuildReport => Action.generateReport call
  | generateTimestamp => Action.generateTimestamp
  | checkTool => Action.checkTool call
  | findLibrary => Action.findLibrary call
  | findFlags => Action.findFlags call
  | shellCommand => Action.shellCommand call
  | sendNotification => Action.sendNotification call
  | installDependency => Action.installDependency call
  | checkAndInstallDependency => Action.checkAndInstall call
  | convertToMake => Action.convertToMake script

end BuildScript
