import BuildScript.Host.Plan
import BuildScript.OrderedMap

/-!
# Rehearsals

A rehearsal is a host that only pretends: it holds files as a map from path texts to contents,
plays back prepared answers of programs, and refuses what it was told to refuse. It shows what a
build would do without doing it.

Paths are compared as they are written. A path lies below a directory if it starts with the
directory's text, its last slashes dropped, and one slash.
-/

namespace BuildScript

/-- An order to refuse a service. -/
structure Refusal where
  service : Service
  /-- The subject whose requests are refused. -/
  subject : String
  fault : Fault
  deriving DecidableEq, Repr

/-- What a rehearsal knows. -/
structure Rehearsal where
  files : OrderedMap ByteArray
  dirs : List String
  /-- Where each program lies. -/
  programs : OrderedMap String
  /-- What the runs of a program leave, in turn; the last one repeats. -/
  runs : OrderedMap (List Completion)
  /-- How each command line ends. -/
  shell : OrderedMap Int
  /-- Entries of directories that are not read off the files. -/
  listings : OrderedMap (List String)
  /-- What the clock shows. -/
  time : String
  refusals : List Refusal

namespace Rehearsal

/-- The subject of a refusal that covers all requests without a refusal of their own. -/
def anySubject : String := "*"

/-- The fault with which a request is refused. -/
def refusal? (r : Rehearsal) (request : Request) : Option Fault :=
  let orders := r.refusals.filter (·.service = request.service)
  let order := orders.find? (·.subject = request.subject)
    <|> orders.find? (·.subject = anySubject)
  order.map Refusal.fault

/-! ## Files -/

/-- What all paths below a directory start with. -/
def stem (dir : String) : List Char := Path.dropTrailingSlashes dir.toList ++ ['/']

/-- What follows a directory in a path below it. -/
def below? (dir path : String) : Option (List Char) := (stem dir).isPrefixOf? path.toList

/-- Whether a path lies below a directory. -/
def isBelow (dir path : String) : Bool := (below? dir path).isSome

/-- Whether there is a directory at a path. -/
def hasDir (r : Rehearsal) (path : String) : Bool :=
  r.dirs.contains path || r.files.keys.any (isBelow path)

/-- Whether there is anything at a path. -/
def has (r : Rehearsal) (path : String) : Bool := r.files.contains path || r.hasDir path

/-- The rehearsal with a file. -/
def setFile (r : Rehearsal) (path : String) (content : ByteArray) : Rehearsal :=
  { r with files := r.files.insert path content }

/-- The rehearsal with a directory. -/
def addDir (r : Rehearsal) (path : String) : Rehearsal :=
  if r.dirs.contains path then r else { r with dirs := r.dirs ++ [path] }

/-- The rehearsal without a directory and all below it. -/
def removeDir (r : Rehearsal) (path : String) : Rehearsal :=
  { r with
    files := ⟨r.files.entries.filter fun entry => !isBelow path entry.1⟩
    dirs := r.dirs.filter fun dir => dir != path && !isBelow path dir }

/-- The rehearsal with all files below one directory copied to below another. -/
def copyDir (r : Rehearsal) (source target : String) : Rehearsal :=
  let copies := r.files.entries.filterMap fun (path, content) =>
    (below? source path).map fun rest => (String.ofList (stem target ++ rest), content)
  (copies.foldl (fun r (path, content) => r.setFile path content) r).addDir target

/-- Texts in ascending order, each once. -/
def sortedSet (texts : List String) : List String :=
  (texts.mergeSort fun a b => decide (a ≤ b)).eraseReps

/-- The first names that follow a directory in the paths below it, in ascending order. -/
def entriesOf (r : Rehearsal) (dir : String) : List String :=
  sortedSet (r.files.keys.filterMap fun path =>
    (below? dir path).map fun rest => String.ofList (rest.takeWhile (· != '/')))

/-- The entries of a directory. -/
def listDir (r : Rehearsal) (path : String) : Except Fault (List String) :=
  match r.listings.get? path with
  | some names => .ok names
  | none =>
    let names := r.entriesOf path
    if names.isEmpty && !r.dirs.contains path then
      .error (.ofMessage s!"No such directory: {path}")
    else .ok names

/-- The directories, in ascending order. -/
def sortedDirs (r : Rehearsal) : List String := sortedSet r.dirs

/-! ## Programs -/

/-- What a program leaves that was given nothing to leave. -/
def silence : Completion := ⟨"", "", 0⟩

/-- Takes the next prepared run of a program. -/
def nextRun (r : Rehearsal) (program : String) : Completion × Rehearsal :=
  match r.runs.get? program with
  | none | some [] => (silence, r)
  | some [last] => (last, r)
  | some (next :: rest) => (next, { r with runs := r.runs.insert program rest })

/-- Where a program lies. -/
def locate (r : Rehearsal) (name : String) : Except Fault Path :=
  match r.programs.get? name with
  | some path => .ok (Path.ofString path)
  | none => .error (.ofMessage s!"{name} not found in PATH")

/-- The content of a file. -/
def read (r : Rehearsal) (path : String) : Except Fault ByteArray :=
  match r.files.get? path with
  | some content => .ok content
  | none => .error (.ofMessage s!"No such file: {path}")

/-! ## The host -/

/-- The answer to a request that is not refused. -/
def serve (r : Rehearsal) : (request : Request) → request.Reply × Rehearsal
  | .print _ | .complain _ => ((), r)
  | .pathExists path => (.ok (r.has path.text), r)
  | .isDirectory path => (.ok (r.hasDir path.text), r)
  | .load path => (r.read path.text, r)
  | .store path content => (.ok (), r.setFile path.text content)
  | .createDirectories path => (.ok (), r.addDir path.text)
  | .removeDirectory path => (.ok (), r.removeDir path.text)
  | .copyDirectory source target => (.ok (), r.copyDir source.text target.text)
  | .listDirectory path => (r.listDir path.text, r)
  | .findProgram name => (r.locate name, r)
  | .runProgram program _ => ((r.nextRun program).map .ok id)
  | .runShell command => (.ok ((r.shell.get? command).getD 0), r)
  | .installPackage _ => (.ok (), r)
  | .clock => (r.time, r)
  | .stopwatch => (0, r)

/-- The answer to a request. -/
def answer (request : Request) (r : Rehearsal) : request.Reply × Rehearsal :=
  match r.refusal? request >>= fun fault => request.failure? fault with
  | some reply => (reply, r)
  | none => r.serve request

/-- The host of a rehearsal. -/
def host : Host Rehearsal := ⟨answer⟩

end Rehearsal

end BuildScript
