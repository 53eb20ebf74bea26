import BuildScript.Script.Line

/-!
# Rules of a Makefile

Nine kinds of call have a counterpart in a Makefile. `RuleKind` lists them with the names and
argument counts of the calls, `Rule` is a call of such a kind with its arguments in place, and
`Rule.pieces` is the text that it adds to the file, in the pieces in which it is written.
-/

namespace BuildScript.Make

open Script

/-- A kind of call that has a counterpart in a Makefile. -/
inductive RuleKind where
  | define
  | library
  | flag
  | headers
  | libraryPath
  | link
  | build
  | phony
  | clean
  deriving DecidableEq, Repr

namespace RuleKind

/-- Every kind, once. -/
def all : List RuleKind :=
  [define, library, flag, headers, libraryPath, link, build, phony, clean]

theorem mem_all (kind : RuleKind) : kind ∈ all := by cases kind <;> decide

/-- The name of the calls of a kind. -/
def name : RuleKind → String
  | define => "define_variable"
  | library => "define_library"
  | flag => "add_flag"
  | headers => "include_directory"
  | libraryPath => "library_path"
  | link => "link_library"
  | build => "compile"
  | phony => "target"
  | clean => "clean"

/-- The number of arguments of the calls of a kind. -/
def arity : RuleKind → Nat
  | define | build => 2
  | library | flag | headers | libraryPath | link | phony => 1
  | clean => 0

/-- The kind of the calls of a name. -/
def named? (name : String) : Option RuleKind := all.find? fun kind => kind.name == name

end RuleKind

/-- One entry of a Makefile. -/
inductive Rule where
  | define (name value : String)
  | library (name : String)
  | flag (text : String)
  | headers (dir : String)
  | libraryPath (path : String)
  | link (name : String)
  | build (source output : String)
  | phony (name : String)
  | clean
  deriving DecidableEq, Repr

/-- The rule of a kind with these arguments, if their number is right. -/
def RuleKind.rule? : RuleKind → List String → Option Rule
  | .define, [name, value] => some (.define name value)
  | .library, [name] => some (.library name)
  | .flag, [text] => some (.flag text)
  | .headers, [dir] => some (.headers dir)
  | .libraryPath, [path] => some (.libraryPath path)
  | .link, [name] => some (.link name)
  | .build, [source, output] => some (.build source output)
  | .phony, [name] => some (.phony name)
  | .clean, [] => some .clean
  | _, _ => none

/-! ## Text -/

/-- What every Makefile starts with. -/
def preamble : String :=
  "# Autogenerated by samba\n\nCC = gcc\nCFLAGS = -Wall\nLDFLAGS =\nLIBS =\n"
    ++ "INCLUDES =\nLIBRARY_PATHS =\n\n"

/-- The recipe that builds a target from its sources. -/
def buildRecipe : String :=
  "\t$(CC) $(CFLAGS) $(INCLUDES) -o $@ $^ $(LDFLAGS) $(LIBRARY_PATHS) $(LIBS)"

/-- The text of a rule, in the pieces in which it is written. -/
def Rule.pieces : Rule → List String
  | .define name value => [name, " = ", value, "\n"]
  | .library name => ["LIBRARY = ", name, "\n"]
  | .flag text => ["CFLAGS += ", text, "\n"]
  | .headers dir => ["INCLUDES += -I", dir, "\n"]
  | .libraryPath path => ["LIBRARY_PATHS += -L", path, "\n"]
  | .link name => ["LIBS += -l", name, "\n"]
  | .build source output => [output, ": ", source, "\n", buildRecipe, "\n\n"]
  | .phony name => [".PHONY: ", name, "\n", name, ":\n\t@echo Building ", name, "\n\n"]
  | .clean => [".PHONY: clean\nclean:\n\t@rm -f *.o $(LIBRARY)\n\n"]

/-- The text of a rule. -/
def Rule.text (rule : Rule) : String := String.join rule.pieces

end BuildScript.Make
