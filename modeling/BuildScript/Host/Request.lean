import BuildScript.Host.Fault
import BuildScript.Path

/-!
# Requests to the host

A build touches the world only through requests. `Request` lists them and `Request.Reply` says
what answers each. Console output, the clock and the stopwatch always succeed; every other request
may fail with a fault.
-/

namespace BuildScript

/-- What is left of a program that has ended. -/
structure Completion where
  output : String
  errors : String
  status : Int
  deriving DecidableEq, Repr

/-- A service that a build asks of its host. -/
inductive Request where
  /-- Show a line on standard output. -/
  | print (text : String)
  /-- Show a line on standard error. -/
  | complain (text : String)
  /-- Is there anything at this path? -/
  | pathExists (path : Path)
  /-- Is there a directory at this path? -/
  | isDirectory (path : Path)
  /-- The content of a file. -/
  | load (path : Path)
  /-- Give a file this content; it is created if need be. -/
  | store (path : Path) (content : ByteArray)
  /-- Create a directory and those above it. -/
  | createDirectories (path : Path)
  /-- Remove a directory and all below it. -/
  | removeDirectory (path : Path)
  /-- Copy all below `source` to below `target`, which is created if need be. -/
  | copyDirectory (source target : Path)
  /-- The names of the entries of a directory. -/
  | listDirectory (path : Path)
  /-- Where is this program? -/
  | findProgram (name : String)
  /-- Run a program to its end and keep what it prints. -/
  | runProgram (program : String) (args : List String)
  /-- Run a command line; it shares the console. -/
  | runShell (command : String)
  | installPackage (name : String)
  /-- Seconds since the epoch, as text. -/
  | clock
  /-- Hundredths of a second since the program began. -/
  | stopwatch

/-- What answers a request. -/
@[reducible] def Request.Reply : Request → Type
  | .print _ | .complain _ => Unit
  | .pathExists _ | .isDirectory _ => Except Fault Bool
  | .load _ => Except Fault ByteArray
  | .store _ _ | .createDirectories _ | .removeDirectory _ | .copyDirectory _ _
  | .installPackage _ => Except Fault Unit
  | .listDirectory _ => Except Fault (List String)
  | .findProgram _ => Except Fault Path
  | .runProgram _ _ => Except Fault Completion
  | .runShell _ => Except Fault Int
  | .clock => String
  | .stopwatch => Nat

/-- The reply that a request has failed, if it can fail. -/
def Request.failure? (fault : Fault) : (request : Request) → Option request.Reply
  | .print _ | .complain _ | .clock | .stopwatch => none
  | .pathExists _ | .isDirectory _ | .load _ | .store _ _ | .createDirectories _
  | .removeDirectory _ | .copyDirectory _ _ | .listDirectory _ | .findProgram _
  | .runProgram _ _ | .runShell _ | .installPackage _ => some (.error fault)

/-- A kind of request. -/
inductive Service where
  | print
  | complain
  | pathExists
  | isDirectory
  | load
  | store
  | createDirectories
  | removeDirectory
  | copyDirectory
  | listDirectory
  | findProgram
  | runProgram
  | runShell
  | installPackage
  | clock
  | stopwatch
  deriving DecidableEq, Repr

/-- The kind of a request. -/
def Request.service : Request → Service
  | .print _ => .print
  | .complain _ => .complain
  | .pathExists _ => .pathExists
  | .isDirectory _ => .isDirectory
  | .load _ => .load
  | .store _ _ => .store
  | .createDirectories _ => .createDirectories
  | .removeDirectory _ => .removeDirectory
  | .copyDirectory _ _ => .copyDirectory
  | .listDirectory _ => .listDirectory
  | .findProgram _ => .findProgram
  | .runProgram _ _ => .runProgram
  | .runShell _ => .runShell
  | .installPackage _ => .installPackage
  | .clock => .clock
  | .stopwatch => .stopwatch

/-- What a request is about: its first argument. -/
def Request.subject : Request → String
  | .print text | .complain text => text
  | .pathExists path | .isDirectory path | .load path | .store path _
  | .createDirectories path | .removeDirectory path | .copyDirectory path _
  | .listDirectory path => path.text
  | .findProgram name | .installPackage name => name
  | .runProgram program _ => program
  | .runShell command => command
  | .clock | .stopwatch => ""

/-- Whether a request only shows text. -/
def Request.isConsole : Request → Bool
  | .print _ | .complain _ => true
  | _ => false

end BuildScript
