import BuildScript.Host.Platform
import BuildScript.Shell.Execution

/-!
# Starting programs

A program is started with arguments in a file system, runs to its end, and leaves what it wrote,
how it ended, and the files. This makes a platform (`platform`) on which command lines and scripts
can be run.
-/

namespace BuildScript.Shell

open Run

/-- The greatest number of steps within each other. -/
def fuelLimit : Nat := 100000

/-- A process that has not begun. -/
def idle (fs : FileSystem) (searchPath : String) : Machine where
  process := {
    name := [], args := []
    bindings := .ofList [("PATH", ⟨bytesOf searchPath, true⟩),
      ("PWD", ⟨placeText fs.directory, true⟩)]
    functions := []
    directory := fs.directory
    descriptors := [(0, 0), (1, 1), (2, 2)]
    status := 0, line := 1, strict := false, bound := false
    substituted := 0, loops := 0, hidden := [] }
  root := fs.root
  streams := [.pipe [], .pipe [], .pipe []]

/-- What was written to a stream. -/
def Machine.written (m : Machine) (stream : Nat) : Bytes :=
  match m.streams[stream]? with
  | some (.pipe content) => content
  | _ => []

/-- Starts a program and waits for its end. -/
def start (fs : FileSystem) (searchPath name : String) (args : List String) :
    Except Fault Finished :=
  if (name :: args).any fun text => text.toList.contains '\x00' then
    .error (.ofMessage "nul byte found in provided data")
  else
    let (found, machine) := (locateProgram (bytesOf name)).run.run (idle fs searchPath)
    match found with
    | .ok .missing | .ok .forbidden | .error _ => .error (.ofMessage FileError.noEntry.message)
    | .ok program =>
      let step := runLocated fuelLimit (bytesOf name) (args.map bytesOf) program
      let (result, machine) := step.run.run machine
      let ending := match result with
        | .error (.killed signal) => .signalled signal
        | _ => .exited machine.process.status
      .ok ⟨arrayOfBytes (machine.written 1), arrayOfBytes (machine.written 2), ending, machine.root⟩

/-- Where a program lies, if it can be run. A path is read from the current directory. -/
def find (fs : FileSystem) (searchPath name : String) : Except Fault Path :=
  let route := Route.ofText name
  let below (dir : String) (steps : List String) : String :=
    steps.foldl FileSystem.entryPath dir
  let candidate :=
    if route.absolute then name
    else if route.steps.length ≤ 1 then FileSystem.entryPath searchPath name
    else
      let kept := (route.steps.dropWhile (· = ".")).filter (· != ".")
      below ("/" ++ String.intercalate "/" fs.directory) kept
  match fs.find candidate with
  | .ok (.file _ true) | .ok .shell => .ok (Path.ofString candidate)
  | _ => .error (.ofMessage "cannot find binary path")

/-- The platform that runs command lines and scripts. -/
def platform : Platform := ⟨.byName, find, start⟩

end BuildScript.Shell
