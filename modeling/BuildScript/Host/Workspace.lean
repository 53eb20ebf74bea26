import BuildScript.Host.Plan
import BuildScript.Host.Platform
import BuildScript.Text.Utf8

/-!
# Workspaces

A workspace is a host that holds files, a search path for programs and a console, and that carries
requests out on them: it reads and writes its files, and has programs run to their end. It stands on
a platform, which lists its directories and starts its programs. What a build does is a function of
both.
-/

namespace BuildScript

/-- Files, programs and a console. -/
structure Workspace where
  files : FileSystem
  /-- The directory in which programs are searched for. -/
  searchPath : String
  /-- What was shown on standard output. -/
  output : ByteArray
  /-- What was shown on standard error. -/
  errors : ByteArray
  /-- What the clock shows. -/
  time : String

namespace Workspace

/-! ## Layout -/

/-- The directory in which a workspace is laid out. -/
def base : Place := ["tmp", "build-workspace"]

/-- The path of the directory in which a workspace is laid out. -/
def basePath : String := "/" ++ String.intercalate "/" base

/-- The directory in which builds run. -/
def home : Place := base ++ ["work"]

/-- The only directory in which programs are searched for. -/
def programs : Place := base ++ ["bin"]

/-- A program that runs a shell script. -/
def scriptProgram (body : String) : Node := .file s!"#!/bin/sh\n{body}\n".toUTF8 true

/-- The tree with a file, and the directories above it, below a place. -/
def addFile (place : Place) (path : String) (node : Node) (root : Node) : Node :=
  let steps := place ++ (Route.ofText path).steps
  (root.putDirs steps.dropLast).put (some node) steps

/-- A workspace with these files, directories and programs, and with a shell on the search path
if `shell` says so. -/
def layOut (files : List (String × ByteArray)) (dirs : List String)
    (scripts : List (String × String)) (shell : Bool) : Workspace :=
  let system := (((Node.emptyDir.putDirs home).putDirs programs).putDirs ["bin"]).putDirs ["dev"]
  let system := (system.put (some .shell) ["bin", "sh"]).put (some .null) ["dev", "null"]
  let system := if shell then system.put (some .shell) (programs ++ ["sh"]) else system
  let system := dirs.foldl (fun root dir => root.putDirs (home ++ (Route.ofText dir).steps)) system
  let system := files.foldl (fun root (path, content) =>
    addFile home path (.file content false) root) system
  let system := scripts.foldl (fun root (name, body) =>
    root.put (some (scriptProgram body)) (programs ++ [name])) system
  ⟨⟨system, home⟩, basePath ++ "/bin", .empty, .empty, "0"⟩

/-- All that is in the directory in which builds run. -/
def listing (w : Workspace) : List (String × Option ByteArray) :=
  Node.listing "" ((w.files.root.get? home).getD .emptyDir).entries

/-! ## Console and files -/

/-- Shows text on standard output. -/
def display (w : Workspace) (text : ByteArray) : Workspace := { w with output := w.output ++ text }

/-- Shows text on standard error. -/
def showError (w : Workspace) (text : ByteArray) : Workspace := { w with errors := w.errors ++ text }

/-- The fault that an error of the file system amounts to. -/
def faultOf (e : FileError) : Fault := .ofMessage e.message

/-- The answer to a question about the files. -/
def ask {α : Type} (w : Workspace) (question : FileSystem → Except FileError α) :
    Except Fault α × Workspace :=
  ((question w.files).mapError faultOf, w)

/-- Changes the files. -/
def change {α : Type} (w : Workspace) (step : FileChange Fault α) : Except Fault α × Workspace :=
  let (result, files) := step.run.run w.files
  (result, { w with files })

/-- Changes the files; an error is the root of the fault. -/
def alter {α : Type} (w : Workspace) (step : FileChange FileError α) :
    Except Fault α × Workspace :=
  w.change (step.adapt faultOf)

/-! ## Programs -/

/-- Runs a program to its end; what it wrote and how it ended. -/
def launch (platform : Platform) (w : Workspace) (name : String) (args : List String) :
    Except Fault Finished × Workspace :=
  match platform.start w.files w.searchPath name args with
  | .error fault => (.error fault, w)
  | .ok finished => (.ok finished, { w with files.root := finished.root })

/-- The status of a program that has ended; one that a signal has ended has none of its own. -/
def statusNumber : Ending → Int
  | .exited status => status
  | .signalled _ => -1

/-- The names of signals, as reports of an ended program show them. -/
def signalName (signal : Nat) : String :=
  let names := [(1, " (SIGHUP)"), (2, " (SIGINT)"), (3, " (SIGQUIT)"), (6, " (SIGABRT)"),
    (9, " (SIGKILL)"), (10, " (SIGUSR1)"), (11, " (SIGSEGV)"), (12, " (SIGUSR2)"),
    (13, " (SIGPIPE)"), (14, " (SIGALRM)"), (15, " (SIGTERM)")]
  (names.lookup signal).getD ""

/-- How a program ended, for people. -/
def endingText : Ending → String
  | .exited status => s!"exit status: {status}"
  | .signalled signal =>
    let name := signalName signal
    s!"signal: {signal}{name}"

/-- Runs a program and keeps what it prints. -/
def runProgram (platform : Platform) (w : Workspace) (name : String) (args : List String) :
    Except Fault Completion × Workspace :=
  match w.launch platform name args with
  | (.ok finished, w) =>
    let completion : Completion :=
      ⟨Text.Utf8.lossy finished.output, Text.Utf8.lossy finished.errors,
        statusNumber finished.ending⟩
    (.ok completion, w)
  | (.error fault, w) => (.error (fault.under s!"Failed to start {name}"), w)

/-- Runs a program that shares the console. -/
def runShared (platform : Platform) (w : Workspace) (name : String) (args : List String) :
    Except Fault Ending × Workspace :=
  match w.launch platform name args with
  | (.ok finished, w) =>
    (.ok finished.ending, (w.display finished.output).showError finished.errors)
  | (.error fault, w) => (.error fault, w)

/-- Runs a command line. -/
def runShell (platform : Platform) (w : Workspace) (command : String) :
    Except Fault Int × Workspace :=
  match w.runShared platform "sh" ["-c", command] with
  | (.ok ending, w) => (.ok (statusNumber ending), w)
  | (.error fault, w) => (.error (fault.under s!"Failed to start shell for `{command}`"), w)

/-! ## Packages -/

/-- The programs that install packages, with their arguments, the preferred ones first. -/
def packageManagers : List (String × List String) :=
  [("apt-get", ["install", "-y"]), ("dnf", ["install", "-y"]), ("pacman", ["-S", "--noconfirm"]),
    ("zypper", ["install", "-y"]), ("brew", ["install"]), ("winget", ["install", "-e", "--id"])]

/-- Installs a package with the first program that is there. -/
def install (platform : Platform) (w : Workspace) (name : String) :
    Except Fault Unit × Workspace :=
  let there (manager : String × List String) : Bool :=
    (platform.find w.files w.searchPath manager.1).isOk
  match packageManagers.find? there with
  | none => (.error (.ofMessage "No supported package manager found"), w)
  | some (manager, args) =>
    match w.runShared platform manager (args ++ [name]) with
    | (.error fault, w) => (.error fault, w)
    | (.ok (.exited 0), w) => (.ok (), w)
    | (.ok ending, w) =>
      let how := endingText ending
      (.error (.ofMessage s!"{manager} exited with {how}"), w)

/-! ## The host -/

/-- Carries out a request. -/
def answer (platform : Platform) (w : Workspace) : (request : Request) → request.Reply × Workspace
  | .print text => ((), w.display (text ++ "\n").toUTF8)
  | .complain text => ((), w.showError (text ++ "\n").toUTF8)
  | .pathExists path => (.ok (w.files.has path.text), w)
  | .isDirectory path => (.ok (w.files.hasDir path.text), w)
  | .load path => w.ask (·.load path.text)
  | .store path content => w.alter (FileSystem.store path.text content)
  | .createDirectories path => w.alter (FileSystem.createDirs path.text)
  | .removeDirectory path => w.alter (FileSystem.removeDirs path.text)
  | .copyDirectory source target =>
    w.change (FileSystem.copyDirs platform.order source.text target.text Route.maxPath)
  | .listDirectory path => w.ask fun fs => (platform.order.list fs path.text).map (·.map Prod.fst)
  | .findProgram name => (platform.find w.files w.searchPath name, w)
  | .runProgram program args => w.runProgram platform program args
  | .runShell command => w.runShell platform command
  | .installPackage name => w.install platform name
  | .clock => (w.time, w)
  | .stopwatch => (0, w)

/-- The host of a workspace on a platform. -/
def host (platform : Platform) : Host Workspace := ⟨fun request w => w.answer platform request⟩

end Workspace

end BuildScript
