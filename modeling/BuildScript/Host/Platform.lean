import BuildScript.FileSystem.Operations
import BuildScript.Path

/-!
# Platforms

A workspace holds files and a console. What it cannot know by itself is left to a platform: in which
order the entries of a directory are named, where a program lies, and what a program does when it is
started. Every platform will do; what holds in a workspace holds on all of them.
-/

namespace BuildScript

/-- How a program ended. -/
inductive Ending where
  | exited (status : Nat)
  | signalled (signal : Nat)
  deriving DecidableEq, Repr

/-- What is left of a program, and of the files. -/
structure Finished where
  output : ByteArray
  errors : ByteArray
  ending : Ending
  root : Node

/-- The system on which a build runs. Programs are searched for along a search path. -/
structure Platform where
  order : ListingOrder
  /-- Where a program lies that can be run. -/
  find : FileSystem → (searchPath name : String) → Except Fault Path
  /-- Starts a program with arguments and waits for its end. -/
  start : FileSystem → (searchPath name : String) → List String → Except Fault Finished

namespace Platform

/-- A platform without programs, where directories are listed by name. -/
def bare : Platform where
  order := .byName
  find _ _ _ := .error (.ofMessage "cannot find binary path")
  start _ _ _ _ := .error (.ofMessage FileError.noEntry.message)

end Platform

end BuildScript
