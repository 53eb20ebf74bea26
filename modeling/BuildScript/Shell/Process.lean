import BuildScript.FileSystem.Operations
import BuildScript.OrderedMap
import BuildScript.Shell.Command
import BuildScript.Shell.Pattern

/-!
# Processes

What a running command line can read and change: its variables, arguments, functions and
directory, the descriptors through which it reads and writes, and the file system. A `Run` is a
step of a running command line. It may stop the command line, or loops or functions in it; what it
did before stays done.
-/

namespace BuildScript.Shell

/-- What a descriptor is connected to. -/
inductive Stream where
  /-- What was written and has not been read. -/
  | pipe (content : Bytes)
  /-- A file, and where in it the next byte is read or written. -/
  | file (place : Place) (position : Nat) (appending : Bool)
  | null
  deriving DecidableEq, Repr

/-- A variable. -/
structure Variable where
  value : Bytes
  /-- Whether programs that are started see the variable. -/
  exported : Bool
  deriving DecidableEq, Repr

/-- What belongs to one running command line. -/
structure Process where
  /-- The name under which it reports errors. -/
  name : Bytes
  args : List Bytes
  bindings : OrderedMap Variable
  functions : List (Bytes × Command)
  directory : Place
  /-- The streams of the descriptors. -/
  descriptors : List (Nat × Nat)
  /-- How the last command ended. -/
  status : Nat
  /-- The line that is being run. -/
  line : Nat
  /-- Whether a failure that is not tested ends the command line. -/
  strict : Bool
  /-- Whether only parameters that have a value may be used. -/
  bound : Bool
  /-- How the last command ended whose output a word of this command took. -/
  substituted : Nat
  /-- The number of loops that are being run. -/
  loops : Nat
  /-- What the local variables of the function that is being run hide. -/
  hidden : List (String × Option Variable)

/-- A process and what it shares with others. -/
structure Machine where
  process : Process
  root : Node
  streams : List Stream

/-- Why a command line does not go on. -/
inductive Stop where
  /-- Leave so many loops. -/
  | leave (loops : Nat)
  /-- Go on with the next round of the loop that is so far out. -/
  | again (loops : Nat)
  | returned
  | exited
  | killed (signal : Nat)
  deriving DecidableEq, Repr

/-- A step of a running command line. -/
abbrev Run := ExceptT Stop (StateM Machine)

namespace Run

/-- The running process. -/
def process : Run Process := return (← get).process

/-- Changes the running process. -/
def modifyProcess (f : Process → Process) : Run Unit :=
  modify fun m => { m with process := f m.process }

/-- Notes how a command ended. -/
def setStatus (status : Nat) : Run Unit := modifyProcess ({ · with status })

/-- The files as the process sees them. -/
def fileSystem : Run FileSystem := return ⟨(← get).root, (← get).process.directory⟩

/-- Changes the files. -/
def modifyFiles (f : FileSystem → FileSystem) : Run Unit := do
  let fs ← fileSystem
  modify ({ · with root := (f fs).root })

/-! ## Variables -/

/-- The value of a variable. -/
def valueOf? (name : Bytes) : Run (Option Bytes) :=
  return ((← process).bindings.get? (String.ofList name)).map Variable.value

/-- Assigns a variable. -/
def assign (name value : Bytes) : Run Unit :=
  modifyProcess fun p =>
    let key := String.ofList name
    let exported := (p.bindings.get? key).any Variable.exported
    { p with bindings := p.bindings.insert key ⟨value, exported⟩ }

/-- Lets programs see a variable. -/
def publish (name : Bytes) : Run Unit :=
  modifyProcess fun p =>
    let key := String.ofList name
    let value := ((p.bindings.get? key).map Variable.value).getD []
    { p with bindings := p.bindings.insert key ⟨value, true⟩ }

/-- Makes a variable local to the function that is being run. -/
def hide (name : Bytes) : Run Unit :=
  modifyProcess fun p =>
    let key := String.ofList name
    { p with hidden := (key, p.bindings.get? key) :: p.hidden }

/-- The characters that separate fields. -/
def separators : Run Bytes := return (← valueOf? "IFS".toList).getD " \t\n".toList

/-! ## Streams -/

/-- Opens a stream. -/
def newStream (stream : Stream) : Run Nat := do
  let m ← get
  set { m with streams := m.streams ++ [stream] }
  return m.streams.length

/-- Connects a descriptor to a stream. -/
def connect (descriptor stream : Nat) : Run Unit :=
  modifyProcess fun p =>
    { p with descriptors := (descriptor, stream) :: p.descriptors.filter (·.1 != descriptor) }

/-- Disconnects a descriptor. -/
def disconnect (descriptor : Nat) : Run Unit :=
  modifyProcess fun p => { p with descriptors := p.descriptors.filter (·.1 != descriptor) }

/-- The stream of a descriptor, and its number. -/
def stream? (descriptor : Nat) : Run (Option (Nat × Stream)) := do
  let m ← get
  return do
    let n ← m.process.descriptors.lookup descriptor
    return (n, ← m.streams[n]?)

/-- Changes a stream. -/
def setStream (n : Nat) (stream : Stream) : Run Unit :=
  modify fun m => { m with streams := m.streams.set n stream }

/-- The content of the file at a place. -/
def contentAt (place : Place) : Run Bytes := do
  match (← get).root.get? place with
  | some (.file content _) => return bytesOfArray content
  | _ => return []

/-- Writes to a descriptor. -/
def write (descriptor : Nat) (text : Bytes) : Run Unit := do
  match ← stream? descriptor with
  | some (n, .pipe content) => setStream n (.pipe (content ++ text))
  | some (n, .file place position appending) =>
    let content ← contentAt place
    let start := if appending then content.length else position
    let padded := content ++ List.replicate (start - content.length) '\x00'
    let whole := padded.take start ++ text ++ padded.drop (start + text.length)
    modifyFiles (·.overwrite place (arrayOfBytes whole))
    setStream n (.file place (start + text.length) appending)
  | _ => return

/-- What can be read from a descriptor. -/
def readable (descriptor : Nat) : Run Bytes := do
  match ← stream? descriptor with
  | some (_, .pipe content) => return content
  | some (_, .file place position _) => return (← contentAt place).drop position
  | _ => return []

/-- Passes over bytes of a descriptor. -/
def consume (descriptor count : Nat) : Run Unit := do
  match ← stream? descriptor with
  | some (n, .pipe content) => setStream n (.pipe (content.drop count))
  | some (n, .file place position appending) =>
    setStream n (.file place (position + count) appending)
  | _ => return

/-- Reports an error. -/
def complain (message : Bytes) : Run Unit := do
  let p ← process
  let number := s!"{p.line}"
  write 2 (p.name ++ ": ".toList ++ number.toList ++ ": ".toList ++ message ++ ['\n'])

/-- Reports an error and notes the failure. -/
def failWith (status : Nat) (message : Bytes) : Run Unit := do
  complain message
  setStatus status

/-- Reports an error and ends the command line. -/
def abort {α : Type} (status : Nat) (message : Bytes) : Run α := do
  failWith status message
  throw .exited

/-- Runs a step with a copy of the process, which is dropped afterwards but for its status. -/
def inCopy (step : Run Unit) : Run Unit := do
  let p ← process
  let restore : Run Unit := modifyProcess fun q => { p with status := q.status }
  tryCatch step fun
    | .killed signal => do
      restore
      throw (.killed signal)
    | _ => return
  restore

end Run

end BuildScript.Shell
