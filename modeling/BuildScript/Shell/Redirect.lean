import BuildScript.Shell.Process

/-!
# Redirections

How a redirection connects a descriptor to a file or to what another descriptor is connected to.
-/

namespace BuildScript.Shell

open Run

/-- Why a file cannot be used, in the words of the shell. -/
def fileTrouble (creating : Bool) (e : FileError) : String :=
  match e with
  | .noEntry | .notDirectory => if creating then "Directory nonexistent" else "No such file"
  | e => e.text

/-- Opens the file at a path for a redirection. -/
def openFile (kind : Redirection) (path : Bytes) : Run (Except Bytes Stream) := do
  let fs ← fileSystem
  let trouble (verb : String) (creating : Bool) (e : FileError) : Except Bytes Stream :=
    .error (s!"cannot {verb} ".toList ++ path ++ ": ".toList ++ (fileTrouble creating e).toList)
  let name := textOf path
  if kind = .input then
    match fs.find name, fs.locate name with
    | .ok (.file _ _), .ok place => return .ok (.file place 0 false)
    | .ok _, _ => return .ok .null
    | .error e, _ => return trouble "open" false e
  else
    match fs.writable name with
    | .error e => return trouble "create" true e
    | .ok place =>
      match fs.root.get? place with
      | some .null => return .ok .null
      | some (.file _ _) =>
        if kind = .output then modifyFiles (·.overwrite place .empty)
        return .ok (.file place 0 (kind = .append))
      | _ =>
        modifyFiles (·.overwrite place .empty)
        return .ok (.file place 0 (kind = .append))

/-- Connects a descriptor as a redirection says; whether that was possible. -/
def redirectTo (descriptor : Nat) (kind : Redirection) (target : Bytes) : Run Bool := do
  if kind = .sameInput || kind = .sameOutput then
    if target = ['-'] then
      disconnect descriptor
      return true
    let descriptors := (← process).descriptors
    let found := (number? target).bind fun n => List.lookup n descriptors
    match found with
    | some stream =>
      connect descriptor stream
      return true
    | none =>
      failWith 2 (target ++ ": Bad file descriptor".toList)
      return false
  else
    match ← openFile kind target with
    | .ok stream =>
      connect descriptor (← newStream stream)
      return true
    | .error message =>
      failWith 2 message
      return false

/-- A step, and whatever happens in it, a second one. -/
def ensuring (step after : Run Unit) : Run Unit := do
  tryCatch step fun stop => do
    after
    throw stop
  after

/-- A step after which the descriptors are what they were. -/
def keepingDescriptors (step : Run Unit) : Run Unit := do
  let descriptors := (← process).descriptors
  ensuring step (modifyProcess ({ · with descriptors }))

end BuildScript.Shell
