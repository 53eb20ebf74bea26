import BuildScript.OrderedMap
import BuildScript.Path

/-!
# Build settings

What the directives of a run have set so far: the compiler, its arguments in six groups, the
build directory and the verbose switch. `compileArgs` turns them into a command line and `report`
into a text for people.
-/

namespace BuildScript

/-- The settings of a build. -/
structure Settings where
  compiler : String
  verbose : Bool
  definitions : OrderedMap String
  flags : List String
  libraries : List String
  includeDirs : List String
  libraryPaths : List String
  linkFlags : List String
  buildDir : Option Path
  deriving DecidableEq, Repr

namespace Settings

/-- The compiler of a build that chooses none. -/
def defaultCompiler : String := "gcc"

/-- The compiler that builds for Windows. -/
def windowsCompiler : String := "x86_64-w64-mingw32-gcc"

/-- The settings before any directive. -/
def initial : Settings where
  compiler := defaultCompiler
  verbose := false
  definitions := .empty
  flags := []
  libraries := []
  includeDirs := []
  libraryPaths := []
  linkFlags := []
  buildDir := none

instance : Inhabited Settings := ⟨initial⟩

/-! ## Changes -/

/-- Chooses the compiler. -/
def setCompiler (s : Settings) (compiler : String) : Settings := { s with compiler }

/-- Switches verbose output on or off. -/
def setVerbose (s : Settings) (verbose : Bool) : Settings := { s with verbose }

/-- Defines a variable; one that is defined already keeps its place. -/
def defineVariable (s : Settings) (name value : String) : Settings :=
  { s with definitions := s.definitions.insert name value }

/-- Removes a variable, and says whether that has changed the number of variables. -/
def removeVariable (s : Settings) (name : String) : Bool × Settings :=
  let kept := s.definitions.erase name
  (kept.size != s.definitions.size, { s with definitions := kept })

/-- A removal is reported exactly if the variable was defined. -/
theorem removeVariable_fst (s : Settings) (name : String) :
    (s.removeVariable name).1 = true ↔ name ∈ s.definitions.keys := by
  rw [removeVariable, bne_iff_ne, OrderedMap.size_erase_ne_iff]

/-- Adds a compiler flag. -/
def addFlag (s : Settings) (flag : String) : Settings := { s with flags := s.flags ++ [flag] }

/-- Removes every occurrence of a flag, and says whether that has changed the number of flags. -/
def removeFlag (s : Settings) (flag : String) : Bool × Settings :=
  let kept := s.flags.filter (· != flag)
  (kept.length != s.flags.length, { s with flags := kept })

/-- A removal is reported exactly if there was such a flag. -/
theorem removeFlag_fst (s : Settings) (flag : String) :
    (s.removeFlag flag).1 = true ↔ flag ∈ s.flags := by
  rw [removeFlag, bne_iff_ne, Ne, List.length_filter_eq_length_iff]
  simp

/-- Adds a library to link. -/
def addLibrary (s : Settings) (name : String) : Settings :=
  { s with libraries := s.libraries ++ [name] }

/-- Adds a directory of header files. -/
def addInclude (s : Settings) (dir : String) : Settings :=
  { s with includeDirs := s.includeDirs ++ [dir] }

/-- Adds a directory of libraries. -/
def addLibraryPath (s : Settings) (path : String) : Settings :=
  { s with libraryPaths := s.libraryPaths ++ [path] }

/-- Adds a linker flag. -/
def addLinkFlag (s : Settings) (flag : String) : Settings :=
  { s with linkFlags := s.linkFlags ++ [flag] }

/-- Chooses the build directory. -/
def setBuildDir (s : Settings) (dir : Path) : Settings := { s with buildDir := some dir }

/-! ## Uses -/

/-- Where an output file goes: into the build directory, if one is chosen. -/
def outputPath (s : Settings) (output : String) : Path :=
  match s.buildDir with
  | some dir => dir.join output
  | none => Path.ofString output

/-- The arguments of a compiler that builds `output` from `source`. -/
def compileArgs (s : Settings) (source : String) (output : Path) : List String :=
  s.flags
    ++ s.definitions.entries.map (fun (name, value) => s!"-D{name}={value}")
    ++ s.includeDirs.map (fun dir => s!"-I{dir}")
    ++ ["-o", output.text, source]
    ++ s.libraryPaths.map (fun path => s!"-L{path}")
    ++ s.libraries.map (fun library => s!"-l{library}")
    ++ s.linkFlags

/-- How a variable is listed for people. -/
def variableLine (entry : String × String) : String := s!"{entry.1} = {entry.2}"

/-! ## The report -/

/-- A titled list of the report. -/
def reportSection (title : String) (items : List String) : List String :=
  ["", s!"{title}:"] ++ items.map (fun item => s!"  {item}")

/-- The lines of the report. -/
def reportLines (s : Settings) : List String :=
  ["Build Report", "============", s!"Compiler: {s.compiler}", s!"Verbose: {s.verbose}"]
    ++ (s.buildDir.map fun dir => s!"Build directory: {dir}").toList
    ++ reportSection "Variables" (s.definitions.entries.map variableLine)
    ++ reportSection "Flags" s.flags
    ++ reportSection "Libraries" s.libraries
    ++ reportSection "Include directories" s.includeDirs
    ++ reportSection "Library paths" s.libraryPaths
    ++ reportSection "Link flags" s.linkFlags

/-- A summary of the settings for people. -/
def report (s : Settings) : String :=
  String.join (s.reportLines.map (· ++ "\n"))

end Settings

end BuildScript
