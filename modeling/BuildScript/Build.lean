import BuildScript.Session

/-!
# Building

The two things that can be done with a build script: run it for some targets, or convert it
into a Makefile.
-/

namespace BuildScript

/-- The script that is used when no other is named. -/
def defaultScript : String := "build.samba"

/-- The version of this program. -/
def programVersion : String := "3"

/-- The version of the build language. -/
def languageVersion : String := "1"

/-- Both versions, for people. -/
def versionBanner : String := s!"SambaCompiler v{programVersion}\n| samba v{languageVersion}"

/-- The version of this program, for people. -/
def versionShort : String := s!"v{programVersion}"

/-- Runs a script for the given targets. -/
def run (script : String) (targets : List String) : Plan (Except Fault Summary) := do
  let session := Session.start (Path.ofString script) (Selection.ofTargets targets)
  let (outcome, _) ← session.runFile
  return outcome

/-- Converts a script and writes the Makefile to `output`. -/
def convert (script output : String) : Plan (Except Fault Make.Conversion) :=
  Make.convertFile (Path.ofString script) (Path.ofString output)

end BuildScript
