import BuildScript.FileSystem.FileError
import BuildScript.FileSystem.Node

/-!
# Routes

A route is a path as the file system reads it: the steps that lead from the root or from the
current directory to a place. `.` stays, `..` goes up, and every step needs a directory to start
from.
-/

namespace BuildScript

/-- A path, cut into steps. -/
structure Route where
  /-- Whether the route starts at the root. -/
  absolute : Bool
  /-- The names between the slashes. -/
  steps : List String
  /-- Whether the path ends with a slash, so that it can only name a directory. -/
  slash : Bool
  deriving DecidableEq, Repr

namespace Route

/-- The names between the slashes of a path. -/
def names : List Char → List String
  | [] => []
  | c :: cs =>
    let name := (c :: cs).takeWhile (· != '/')
    let rest := names ((c :: cs).dropWhile (· != '/')).tail
    if name.isEmpty then rest else String.ofList name :: rest
  termination_by cs => cs.length
  decreasing_by
    have := (List.dropWhile_suffix (· != '/') (l := c :: cs)).length_le
    simp_all only [List.length_tail, List.length_cons]
    omega

/-- The route of a path. -/
def ofText (text : String) : Route where
  absolute := text.toList.head? == some '/'
  steps := names text.toList
  slash := text.toList.getLast? == some '/'

/-- The routes to the directories that hold the end of a route, the nearest first. -/
def ancestors (r : Route) : List Route :=
  let kept := match r.steps with
    | [] => []
    | first :: rest => first :: rest.filter (· != ".")
  (List.range kept.length).reverse.map fun n => ⟨r.absolute, kept.take n, false⟩

/-! ## Following a route -/

/-- The greatest size of a name, in bytes. -/
def maxName : Nat := 255

/-- The least size of a path that is too long, in bytes. -/
def maxPath : Nat := 4096

/-- Takes a step. -/
def advance (root : Node) (place : Place) (name : String) : Except FileError Place :=
  match root.get? place with
  | none => .error .noEntry
  | some (.dir _) =>
    if name = "." then .ok place
    else if name = ".." then .ok place.dropLast
    else if maxName < name.utf8ByteSize then .error .nameTooLong
    else .ok (place ++ [name])
  | some _ => .error .notDirectory

/-- The place to which a route leads from a directory. The place itself may be empty. -/
def follow (r : Route) (root : Node) (directory : Place) : Except FileError Place :=
  r.steps.foldlM (advance root) (if r.absolute then [] else directory)

/-- The place that a path names. -/
def locate (root : Node) (directory : Place) (text : String) : Except FileError Place :=
  if text.toList.contains '\x00' then .error .nulByte
  else if text.toList.isEmpty then .error .noEntry
  else if maxPath ≤ text.utf8ByteSize then .error .nameTooLong
  else (ofText text).follow root directory

end Route

end BuildScript
