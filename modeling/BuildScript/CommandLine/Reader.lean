import BuildScript.CommandLine.Options

/-!
# A reader of command lines

A parser for the arguments of the program (`Reader.parse`). Arguments are read in order. Switches and
targets may be mixed; after `--` every argument is a target. A value of a switch may follow it as an
argument of its own, and is then settled only when the next switch or target begins or the line ends;
so of two mistakes it is not always the first that is reported.

What is settled is an occurrence of a declared argument. What is reported for each argument follows
from its declaration and its occurrences alone (`Matches.ofOccurrences`).
-/

namespace BuildScript

/-! ## Occurrences -/

/-- What is reported for arguments with these occurrences. -/
def Matches.ofOccurrences {ι : Type} [DecidableEq ι] (declare : ι → Declaration)
    (occurrences : List (Occurrence ι)) : Matches ι where
  given a := occurrences.any (·.argument = a)
  count a := min 255 (occurrences.countP (·.argument = a))
  values a :=
    match occurrences.filter (·.argument = a) with
    | [] => (declare a).default?.toList
    | found => found.flatMap fun o =>
      if o.values.isEmpty then (declare a).missing?.toList else o.values

/-- Why a command line is not carried out. -/
inductive UsageError where
  /-- The help text was asked for. -/
  | help
  /-- No argument has this long form; the others were given. -/
  | unknownLong (name : String) (given : List Argument)
  /-- No argument has this letter. -/
  | unknownLetter (letter : Char)
  | missingValue (argument : Argument)
  | repeated (argument : Argument)
  /-- An argument that takes no value was given one. -/
  | extraValue (argument : Argument) (value : String) (given : List Argument)
  deriving DecidableEq, Repr

namespace Argument

/-- Every argument, in the order of the help text. -/
def all : List Argument := [version, versionShort, file, make, verbose, help, targets]

/-- The argument of a long form. -/
def ofLong? (name : String) : Option Argument := all.find? fun a => a.declaration.long? == some name

/-- The argument of a letter. -/
def ofLetter? (letter : Char) : Option Argument :=
  all.find? fun a => a.declaration.letter? == some letter

/-- Whether an argument takes a value. -/
def takesValue (a : Argument) : Bool := a.declaration.kind = .single

end Argument

/-- What is read but not settled. -/
inductive Unsettled where
  | nothing
  /-- An argument that takes a value, and the value once it was read. -/
  | value (argument : Argument) (text : Option String)
  | targets (names : List String)
  deriving DecidableEq, Repr

/-- A command line that is being read. -/
structure Reader where
  /-- What was settled, in order. -/
  occurrences : List (Occurrence Argument)
  /-- The arguments that count as given, in order. -/
  given : List Argument
  unsettled : Unsettled
  /-- Whether all that follows is a target. -/
  literal : Bool
  deriving DecidableEq, Repr

namespace Reader

/-- Nothing was read. -/
def start : Reader := ⟨[], [], .nothing, false⟩

/-! ## Settling -/

/-- Notes an argument as given, at the end unless it is noted already. -/
def note (r : Reader) (a : Argument) : Reader :=
  if r.given.contains a then r else { r with given := r.given ++ [a] }

/-- Forgets that an argument was given. -/
def forget (r : Reader) (a : Argument) : Reader := { r with given := r.given.erase a }

/-- Adds occurrences. -/
def add (r : Reader) (os : List (Occurrence Argument)) : Reader :=
  { r with occurrences := r.occurrences ++ os }

/-- Settles an argument that may be given once. It counts as given only if it is settled. -/
def once (r : Reader) (o : Occurrence Argument) : Except UsageError Unit × Reader :=
  if r.given.contains o.argument then (.error (.repeated o.argument), r.forget o.argument)
  else (.ok (), (r.note o.argument).add [o])

/-- Settles an argument with its value, which must not be empty. -/
def settleValue (r : Reader) (a : Argument) (text : String) : Except UsageError Unit × Reader :=
  match r.once ⟨a, [text]⟩ with
  | (.ok (), next) => if text.isEmpty then (.error (.missingValue a), r.note a) else (.ok (), next)
  | failure => failure

/-- Settles what is unsettled. -/
def settle (r : Reader) : Except UsageError Unit × Reader :=
  let next := { r with unsettled := .nothing }
  match r.unsettled with
  | .nothing => (.ok (), next)
  | .value a (some text) => next.settleValue a text
  | .value a none =>
    if a.declaration.optional then next.once ⟨a, []⟩ else (.error (.missingValue a), next)
  | .targets names => (.ok (), (next.note .targets).add (names.map fun name => ⟨.targets, [name]⟩))

/-- The reader after everything is settled, or what went wrong with it. -/
def settled (r : Reader) : Except UsageError Reader :=
  match r.settle with
  | (.ok (), next) => .ok next
  | (.error e, _) => .error e

/-- Settles what is unsettled, and then a step. -/
def andThen (r : Reader) (step : Reader → Except UsageError Unit × Reader) :
    Except UsageError Reader := do
  match step (← r.settled) with
  | (.ok (), next) => .ok next
  | (.error e, _) => .error e

/-! ## Taking arguments -/

/-- Takes an argument whose value may follow. -/
def await (r : Reader) (a : Argument) : Except UsageError Reader := do
  return { (← r.settled) with unsettled := .value a none }

/-- Takes a form of an argument without a value beside it. -/
def takeForm (r : Reader) (a : Argument) : Except UsageError Reader :=
  match a.declaration.kind with
  | .flag => r.andThen (·.once ⟨a, []⟩)
  | .count => r.andThen fun r => (.ok (), ((r.forget a).note a).add [⟨a, []⟩])
  | .single => r.await a
  | .many => .ok r
  | .help => r.andThen fun r => (.error .help, r)

/-- Takes an argument with its value. -/
def takeValue (r : Reader) (a : Argument) (text : String) : Except UsageError Reader :=
  r.andThen (·.settleValue a text)

/-- Takes a long form. -/
def takeLong (r : Reader) (text : List Char) : Except UsageError Reader :=
  let name := String.ofList (text.takeWhile (· != '='))
  let value? := (text.dropWhile (· != '=')).tail?.map String.ofList
  match Argument.ofLong? name, value? with
  | none, _ => .error (.unknownLong name r.settle.2.given)
  | some a, none => r.takeForm a
  | some a, some value =>
    if a.takesValue then r.takeValue a value
    else .error (.extraValue a value (r.given ++ [a]))

/-- Takes a cluster of letters. The rest of the cluster is the value of the first argument that
takes one; an equals sign before it is dropped. -/
def takeShort (r : Reader) : List Char → Except UsageError Reader
  | [] => .ok r
  | letter :: rest =>
    match Argument.ofLetter? letter, rest with
    | none, _ => .error (.unknownLetter letter)
    | some a, rest =>
      if a.takesValue then
        match rest with
        | [] => r.takeForm a
        | '=' :: value => r.takeValue a (String.ofList value)
        | value => r.takeValue a (String.ofList value)
      else do (← r.takeForm a).takeShort rest

/-- Takes a target. -/
def takeTarget (r : Reader) (name : String) : Except UsageError Reader :=
  match r.unsettled with
  | .targets names => .ok { r with unsettled := .targets (names ++ [name]) }
  | _ => do return { (← r.settled) with unsettled := .targets [name] }

/-- Takes an argument without a dash. -/
def takeWord (r : Reader) (text : String) : Except UsageError Reader :=
  match r.unsettled with
  | .value a none => .ok { r with unsettled := .value a (some text) }
  | _ => r.takeTarget text

/-- Takes an argument. -/
def take (r : Reader) (argument : String) : Except UsageError Reader :=
  if r.literal then r.takeTarget argument
  else match argument.toList with
    | ['-', '-'] => .ok { r with literal := true }
    | '-' :: '-' :: text => r.takeLong text
    | '-' :: letter :: rest => r.takeShort (letter :: rest)
    | _ => r.takeWord argument

/-- The occurrences in a command line. -/
def read (arguments : List String) : Except UsageError (List (Occurrence Argument)) := do
  let r ← arguments.foldlM take start
  return (← r.settled).occurrences

/-- Reads a command line and reports what was found. -/
def parse : Parser Argument UsageError := fun arguments =>
  (read arguments).map (Matches.ofOccurrences Argument.declaration)

end Reader

end BuildScript
