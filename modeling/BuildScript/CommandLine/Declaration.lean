/-!
# Declared arguments

A program declares the arguments of its command line: how each is written, what is done with it, and
what stands for a value that is not given. A parser reads the command line by these declarations and
reports what it found for each argument. It is no part of the program; how parsers behave is not said
here.
-/

namespace BuildScript

/-- What is done with an argument when it is given. -/
inductive Declaration.Kind where
  /-- It is noted that it was given. -/
  | flag
  /-- It is counted how often it was given. -/
  | count
  /-- It has a value. -/
  | single
  /-- It stands for itself, and all that are given are collected. -/
  | many
  /-- The help text is shown. -/
  | help
  deriving DecidableEq, Repr

/-- An argument as it is declared. -/
structure Declaration where
  kind : Declaration.Kind
  /-- The letter of the short form. -/
  letter? : Option Char := none
  /-- The long form, without its dashes. -/
  long? : Option String := none
  /-- Whether the value may be left out. -/
  optional : Bool := false
  /-- What stands for a value that is left out. -/
  missing? : Option String := none
  /-- What stands for the value if the argument is not given. -/
  default? : Option String := none
  /-- The value, as messages show it. -/
  valueName : String := ""
  /-- What the help text says. -/
  about : String
  deriving DecidableEq, Repr

/-- The forms in which an argument is written, with their dashes. -/
def Declaration.forms (d : Declaration) : List String :=
  d.letter?.toList.map (fun letter => String.ofList ['-', letter]) ++ d.long?.toList.map ("--" ++ ·)

/-- An argument that was given, with its values. -/
structure Occurrence (ι : Type) where
  argument : ι
  values : List String
  deriving DecidableEq, Repr

/-- What a parser reports. What it reports for an argument is read by the kind of the argument. -/
structure Matches (ι : Type) where
  given : ι → Bool
  count : ι → Nat
  values : ι → List String

/-- A parser of command lines: what it reports for the arguments, or why it reports nothing. -/
abbrev Parser (ι ε : Type) := List String → Except ε (Matches ι)

end BuildScript
