import BuildScript.CommandLine.Reader
import BuildScript.Text.Similarity

/-!
# Usage

The texts that explain the command line: the help text, and the report of a command line that
cannot be understood. A report says what is wrong, gives a tip if there is one, and shows the
usage as far as it is known from what was given.
-/

namespace BuildScript

/-- The name of the program. -/
def programName : String := "sambac"

/-- What the program is for. -/
def about : String := "Runs samba build scripts or converts them to Makefiles"

namespace Argument

/-- The arguments that are written with dashes, in the order of the help text. -/
def switches : List Argument := all.filter fun a => a.declaration.long?.isSome

/-- The long form, without its dashes. -/
def long (a : Argument) : String := a.declaration.long?.getD ""

/-- The argument as messages show it. -/
def label (a : Argument) : String :=
  let name := a.declaration.valueName
  let value := match a.declaration.kind with
    | .single => if a.declaration.optional then s!" [<{name}>]" else s!" <{name}>"
    | .count => "..."
    | .flag | .many | .help => ""
  "--" ++ a.long ++ value

/-- What the help text says about an argument. -/
def description (a : Argument) : String :=
  let default := a.declaration.default?.elim "" fun value => s!" [default: {value}]"
  a.declaration.about ++ default

end Argument

/-! ## Help -/

/-- How the program is used, given what was given. -/
def usageLine (given : List Argument) : String :=
  let switches := (given.filter (· ≠ .targets)).map Argument.label
  let options := if given.isEmpty then ["[OPTIONS]"] else switches.eraseDups
  let targets := if given.contains .targets then "<TARGETS>..." else "[TARGETS]..."
  String.intercalate " " (["Usage:", programName] ++ options ++ [targets])

/-- Spaces. -/
def blanks (n : Nat) : String := String.ofList (List.replicate n ' ')

/-- The width of the longest label. -/
def labelWidth : Nat := (Argument.switches.map fun a => a.label.length).foldl max 0

/-- The line of the help text on an argument. -/
def Argument.helpLine (a : Argument) : String :=
  let short := match a.declaration.letter? with
    | some letter => String.ofList ['-', letter, ',', ' ']
    | none => blanks 4
  "  " ++ short ++ a.label ++ blanks (labelWidth + 2 - a.label.length) ++ a.description

/-- The help text. -/
def helpText : String :=
  String.intercalate "\n" <|
    [about, "", usageLine [], "", "Arguments:",
      "  [TARGETS]...  " ++ Argument.targets.description, "", "Options:"]
      ++ Argument.switches.map Argument.helpLine

/-! ## Reports -/

namespace UsageError

/-- The first line of the report. -/
def message : UsageError → String
  | help => about
  | unknownLong name _ => s!"error: unexpected argument '--{name}' found"
  | unknownLetter letter => s!"error: unexpected argument '-{letter}' found"
  | missingValue a => s!"error: a value is required for '{a.label}' but none was supplied"
  | repeated a => s!"error: the argument '{a.label}' cannot be used multiple times"
  | extraValue a value _ =>
    s!"error: unexpected value '{value}' for '{a.label}' found; no more were expected"

/-- The argument that may have been meant by a long form. -/
def similar? (name : String) : Option Argument :=
  Text.nearest name Argument.long Argument.switches

/-- Advice on what to write instead. -/
def tip? : UsageError → Option String
  | unknownLong name _ =>
    match similar? name with
    | some a => some s!"  tip: a similar argument exists: '--{a.long}'"
    | none => some s!"  tip: to pass '--{name}' as a value, use '-- --{name}'"
  | unknownLetter letter => some s!"  tip: to pass '-{letter}' as a value, use '-- -{letter}'"
  | _ => none

/-- The usage line of the report. What may have been meant counts as given. -/
def usage? : UsageError → Option String
  | unknownLong name given =>
    let meant := (similar? name).toList.filter fun a => !given.contains a
    some (usageLine (given ++ meant))
  | unknownLetter _ => some (usageLine [])
  | extraValue _ _ given => some (usageLine given)
  | repeated _ => some (usageLine [])
  | help | missingValue _ => none

/-- The whole report, without its last line end. -/
def report (e : UsageError) : String :=
  String.intercalate "\n\n" <|
    e.message :: e.tip?.toList ++ e.usage?.toList ++ ["For more information, try '--help'."]

/-- Shows the help text if it was asked for, and otherwise what is wrong; the exit status. -/
def dismiss : UsageError → Plan Nat
  | help => do
    Plan.print helpText
    return 0
  | e => do
    Plan.complain e.report
    return 2

end UsageError

end BuildScript
