import BuildScript.Shell.Process

/-!
# Programs

The programs that a command line can start: the shell itself, and executable scripts. A name with
a slash is a path; any other name is searched for in the directories of the search path.
-/

namespace BuildScript.Shell

open Run

/-- A program that can be started, or the reason why not. -/
inductive Located where
  | missing
  | forbidden
  /-- A script with the option that its first line gives to the shell. -/
  | script (path : Bytes) (text : Bytes) (option : Bytes)
  | shell (path : Bytes)

/-- The interpreter that the first line of a script names, and its option. -/
def interpreter? : Bytes → Option (Bytes × Bytes)
  | '#' :: '!' :: cs =>
    let blank (c : Char) : Bool := c = ' ' || c = '\t'
    let line := (cs.takeWhile (· != '\n')).dropWhile blank
    some (line.takeWhile (!blank ·), (line.dropWhile (!blank ·)).dropWhile blank)
  | _ => none

/-- The program that a node is. -/
def programAt (fs : FileSystem) (path : Bytes) : Node → Located
  | .shell => .shell path
  | .file content true =>
    let text := bytesOfArray content
    match interpreter? text with
    | none => .script path text []
    | some (interpreter, option) =>
      match fs.find (textOf interpreter) with
      | .ok .shell => .script path text option
      | _ => .missing
  | .file _ false | .dir _ | .null => .forbidden

/-- The texts between colons. -/
def betweenColons : Bytes → List Bytes
  | [] => [[]]
  | c :: cs =>
    if c = ':' then [] :: betweenColons cs
    else match betweenColons cs with
      | [] => [[c]]
      | first :: rest => (c :: first) :: rest

/-- The first program of a name in directories. -/
def searchProgram (fs : FileSystem) (name : Bytes) : List Bytes → Located
  | [] => .missing
  | dir :: dirs =>
    let path := bytesOf (FileSystem.entryPath (textOf dir) (textOf name))
    let here := match fs.find (textOf path) with
      | .ok node => programAt fs path node
      | .error _ => .missing
    match here, searchProgram fs name dirs with
    | .missing, later => later
    | .forbidden, .missing => .forbidden
    | .forbidden, later => later
    | found, _ => found

/-- The program that a command names. -/
def locateProgram (name : Bytes) : Run Located := do
  let fs ← fileSystem
  if name.contains '/' then
    match fs.find (textOf name) with
    | .ok node => return programAt fs name node
    | .error _ => return .missing
  else return searchProgram fs name (betweenColons ((← valueOf? "PATH".toList).getD []))

end BuildScript.Shell
