import BuildScript.Build
import BuildScript.CommandLine.Declaration

/-!
# Options

The arguments that the program declares (`Argument.declaration`), and what a command line asks for,
which is read off what a parser reports for them (`Options.ofArguments`).
-/

namespace BuildScript

/-- An argument of the command line. -/
inductive Argument where
  | version
  | versionShort
  | file
  | make
  | verbose
  | targets
  | help
  deriving DecidableEq, Repr

/-- How an argument is declared. The last one is there without being asked for. -/
def Argument.declaration : Argument → Declaration
  | version => {
    kind := .flag, long? := some "version",
    about := "Print the compiler and language versions" }
  | versionShort => {
    kind := .flag, long? := some "version_short", about := "Print the compiler version only" }
  | file => {
    kind := .single, letter? := some 'f', long? := some "file", default? := some defaultScript,
    valueName := "path", about := "Build script to read" }
  | make => {
    kind := .single, long? := some "make", optional := true,
    missing? := some Make.defaultMakefile.text, valueName := "path",
    about := "Write a Makefile instead of running the script" }
  | verbose => {
    kind := .count, letter? := some 'v', long? := some "verbose",
    about := "Increase log output (-v, -vv, -vvv)" }
  | targets => {
    kind := .many, valueName := "TARGETS", about := "Targets to build (defaults to \"default\")" }
  | help => { kind := .help, letter? := some 'h', long? := some "help", about := "Print help" }

/-- What a command line asks for. -/
structure Options where
  /-- Whether both versions are asked for. -/
  showBanner : Bool
  /-- Whether the version of the program is asked for. -/
  showVersion : Bool
  script : String
  /-- The Makefile to write, if one is asked for. -/
  makefile : Option String
  /-- How often more log output is asked for. -/
  verbosity : Nat
  targets : List String
  deriving DecidableEq, Repr

namespace Options

/-- What is asked for by what a parser reports. The script has a default, so there is always one. -/
def ofMatches (m : Matches Argument) : Options where
  showBanner := m.given .version
  showVersion := m.given .versionShort
  script := (m.values .file).headD ""
  makefile := (m.values .make).head?
  verbosity := m.count .verbose
  targets := m.values .targets

/-- What a command line asks for, as a parser reads it. -/
def ofArguments {ε : Type} (parse : Parser Argument ε) (arguments : List String) :
    Except ε Options :=
  (parse arguments).map ofMatches

/-- The least important records that are logged. -/
def level (options : Options) : Level :=
  match options.verbosity with
  | 0 => .warn
  | 1 => .info
  | 2 => .debug
  | _ => .trace

end Options

end BuildScript
