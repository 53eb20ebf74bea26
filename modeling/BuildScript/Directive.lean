/-!
# Directives

The verbs of the build language. Each has the name by which scripts call it and the number of
arguments that it takes.
-/

namespace BuildScript

/-- A verb of the build language. -/
inductive Directive where
  -- settings
  | defineVariable
  | removeVariable
  | listDefinedVariables
  | defineLibrary
  | defineInclude
  | defineLibraryPath
  | printLibraries
  | addFlag
  | removeFlag
  | printFlags
  | addMemorySanitizer
  | addCompilerWarnings
  | enableVerbose
  | winCompiler
  | resetSettings
  -- compilation
  | compile
  | compileSilently
  -- console
  | printLine
  | printErrorLine
  | exit
  -- files and directories
  | fileExists
  | setBuildDirectory
  | clearBuildDirectory
  | backupBuildDirectory
  | listFilesInDirectory
  | generateBuildReport
  | generateTimestamp
  -- programs
  | checkTool
  | findLibrary
  | findFlags
  | shellCommand
  | sendNotification
  | installDependency
  | checkAndInstallDependency
  -- Makefiles
  | convertToMake
  deriving DecidableEq, Repr

namespace Directive

/-- Every directive, once. -/
def all : List Directive :=
  [defineVariable, removeVariable, listDefinedVariables, defineLibrary, defineInclude,
   defineLibraryPath, printLibraries, addFlag, removeFlag, printFlags, addMemorySanitizer,
   addCompilerWarnings, enableVerbose, winCompiler, resetSettings, compile, compileSilently,
   printLine, printErrorLine, exit, fileExists, setBuildDirectory, clearBuildDirectory,
   backupBuildDirectory, listFilesInDirectory, generateBuildReport, generateTimestamp, checkTool,
   findLibrary, findFlags, shellCommand, sendNotification, installDependency,
   checkAndInstallDependency, convertToMake]

theorem mem_all (d : Directive) : d ∈ all := by cases d <;> decide

/-- The name by which scripts call a directive. -/
def name : Directive → String
  | defineVariable => "define_variable"
  | removeVariable => "remove_variable"
  | listDefinedVariables => "list_defined_variables"
  | defineLibrary => "define_library"
  | defineInclude => "define_include"
  | defineLibraryPath => "define_library_path"
  | printLibraries => "print_libraries"
  | addFlag => "add_flag"
  | removeFlag => "remove_flag"
  | printFlags => "print_flags"
  | addMemorySanitizer => "add_memory_sanitizer"
  | addCompilerWarnings => "add_compiler_warnings"
  | enableVerbose => "enable_verbose"
  | winCompiler => "win_compiler"
  | resetSettings => "reset_settings"
  | compile => "compile"
  | compileSilently => "compile_s"
  | printLine => "printfn"
  | printErrorLine => "eprintfn"
  | exit => "exit"
  | fileExists => "file_exists"
  | setBuildDirectory => "set_build_directory"
  | clearBuildDirectory => "clear_build_directory"
  | backupBuildDirectory => "backup_build_directory"
  | listFilesInDirectory => "list_files_in_directory"
  | generateBuildReport => "generate_build_report_to_file"
  | generateTimestamp => "generate_timestamp_file"
  | checkTool => "check_tool"
  | findLibrary => "find_library"
  | findFlags => "find_flags"
  | shellCommand => "s_command"
  | sendNotification => "send_notification"
  | installDependency => "install_dependency"
  | checkAndInstallDependency => "check_and_install_dependency"
  | convertToMake => "convert_to_make"

/-- The number of arguments that a directive takes. -/
def arity : Directive → Nat
  | defineVariable | compile | compileSilently => 2
  | sendNotification => 3
  | listDefinedVariables | printLibraries | printFlags | addMemorySanitizer
  | addCompilerWarnings | enableVerbose | winCompiler | resetSettings | clearBuildDirectory
  | generateTimestamp | convertToMake => 0
  | removeVariable | defineLibrary | defineInclude | defineLibraryPath | addFlag | removeFlag
  | printLine | printErrorLine | exit | fileExists | setBuildDirectory | backupBuildDirectory
  | listFilesInDirectory | generateBuildReport | checkTool | findLibrary | findFlags
  | shellCommand | installDependency | checkAndInstallDependency => 1

/-- The directive of a name. -/
def named? (name : String) : Option Directive := all.find? fun d => d.name == name

end Directive

end BuildScript
