import BuildScript.FileSystem.Route
import BuildScript.Host.Fault

/-!
# Operations on files

A `FileSystem` is a tree of nodes and a current directory. Questions are functions of it. A change
is a `FileChange`: it may fail, and what it did before it failed stays done.
-/

namespace BuildScript

/-- A tree of nodes, and the directory from which paths are read. -/
structure FileSystem where
  root : Node
  directory : Place

instance : Inhabited FileSystem := ⟨⟨.emptyDir, []⟩⟩

/-- A change of a file system that may fail. -/
abbrev FileChange (ε : Type) := ExceptT ε (StateM FileSystem)

namespace FileSystem

/-! ## Questions -/

/-- The place that a path names. -/
def locate (fs : FileSystem) (path : String) : Except FileError Place :=
  Route.locate fs.root fs.directory path

/-- The node that a path names. -/
def find (fs : FileSystem) (path : String) : Except FileError Node := do
  match fs.root.get? (← fs.locate path) with
  | none => .error .noEntry
  | some node => if (Route.ofText path).slash && !node.isDir then .error .notDirectory else .ok node

/-- Whether there is anything at a path. -/
def has (fs : FileSystem) (path : String) : Bool := (fs.find path).isOk

/-- Whether there is a directory at a path. -/
def hasDir (fs : FileSystem) (path : String) : Bool :=
  match fs.find path with
  | .ok node => node.isDir
  | .error _ => false

/-- The content of the file at a path. -/
def load (fs : FileSystem) (path : String) : Except FileError ByteArray := do
  match ← fs.find path with
  | .file content _ => .ok content
  | .dir _ => .error .isDirectory
  | .shell | .null => .ok .empty

/-- The entries of the directory at a path. -/
def list (fs : FileSystem) (path : String) : Except FileError (List (String × Node)) := do
  match ← fs.find path with
  | .dir entries => .ok entries
  | _ => .error .notDirectory

/-- The place of the file that is to be written at a path. -/
def writable (fs : FileSystem) (path : String) : Except FileError Place := do
  let place ← fs.locate path
  match fs.root.get? place, (Route.ofText path).slash with
  | some (.dir _), _ | _, true => .error .isDirectory
  | some .shell, false => .error .accessDenied
  | _, false => .ok place

/-! ## Changes -/

/-- The file system with a node at a place. -/
def put (fs : FileSystem) (place : Place) (node : Option Node) : FileSystem :=
  { fs with root := fs.root.put node place }

/-- Puts a file at a place, unless there is a device. -/
def write (fs : FileSystem) (place : Place) (content : ByteArray) (executable : Bool) :
    FileSystem :=
  match fs.root.get? place with
  | some .null => fs
  | _ => fs.put place (some (.file content executable))

/-- Gives the file at a place a content; it is executable as it was, and a new file is not. -/
def overwrite (fs : FileSystem) (place : Place) (content : ByteArray) : FileSystem :=
  match fs.root.get? place with
  | some (.file _ executable) => fs.write place content executable
  | _ => fs.write place content false

/-- A question as part of a change. -/
def ask {ε α : Type} (question : FileSystem → Except ε α) : FileChange ε α := do
  match question (← get) with
  | .ok a => return a
  | .error e => throw e

/-- Gives the file at a path a content. -/
def store (path : String) (content : ByteArray) : FileChange FileError Unit := do
  let place ← ask (·.writable path)
  modify (·.overwrite place content)

/-- Creates the directory at the end of a route. -/
def createDir (route : Route) : FileChange FileError Unit := do
  let fs ← get
  let place ← ask fun fs => route.follow fs.root fs.directory
  if (fs.root.get? place).isSome then throw .alreadyThere
  set (fs.put place (some .emptyDir))

/-- Whether there is a directory at the end of a route. -/
def leadsToDir (fs : FileSystem) (route : Route) : Bool :=
  match route.follow fs.root fs.directory with
  | .ok place => (fs.root.get? place).any Node.isDir
  | .error _ => false

/-- Creates the directory at the end of a route unless there is one. -/
def ensureDir (route : Route) : FileChange FileError Unit :=
  tryCatch (createDir route) fun e => do
    unless (← get).leadsToDir route do throw e

/-- Creates the directory at the end of a route; where it has no directory to stand in, those of
`above` are created first, the last of them first. -/
def ensureDirs (route : Route) : List Route → FileChange FileError Unit
  | [] => ensureDir route
  | parent :: above => do
    if !route.absolute && route.steps.isEmpty then return
    tryCatch (createDir route) fun e => do
      if e = .noEntry then
        ensureDirs parent above
        ensureDir route
      else unless (← get).leadsToDir route do throw e

/-- Creates a directory and those above it. -/
def createDirs (path : String) : FileChange FileError Unit := do
  if path.toList.isEmpty then return
  if Route.maxPath ≤ path.utf8ByteSize then throw .nameTooLong
  if path.toList.contains '\x00' then throw .nulByte
  let route := Route.ofText path
  ensureDirs route route.ancestors

/-- Removes a directory and all below it. A directory that is named through `.` or `..` is
emptied, but cannot be removed itself. -/
def removeDirs (path : String) : FileChange FileError Unit := do
  let place ← ask (·.locate path)
  unless (← ask (·.find path)).isDir do throw .notDirectory
  modify (·.put place (some .emptyDir))
  match (Route.ofText path).steps.getLast? with
  | some "." => throw .invalid
  | some ".." => throw .notEmpty
  | _ => modify (·.put place none)

/-! ## Copies -/

/-- A change that fails with a fault, under a context. -/
def under {α : Type} (context : String) (change : FileChange FileError α) : FileChange Fault α :=
  change.adapt fun e => (Fault.ofMessage e.message).under context

/-- The path of an entry of a directory. -/
def entryPath (dir name : String) : String :=
  if dir.toList.isEmpty || dir.toList.getLast? == some '/' then dir ++ name else dir ++ "/" ++ name

/-- Copies a file, and whether it is executable. The target is emptied before the source is read. -/
def copyFile (source target : String) : FileChange FileError Unit := do
  let executable ← match ← ask (·.find source) with
    | .file _ executable => pure executable
    | .shell => pure true
    | .dir _ | .null => throw .invalid
  let place ← ask (·.writable target)
  modify (·.write place .empty executable)
  let content ← ask (·.load source)
  modify (·.write place content executable)

end FileSystem

/-- The order in which a system names the entries of a directory when it is asked for them. It may be
any order, and another one for another directory or at another time. -/
structure ListingOrder where
  arrange : FileSystem → String → List (String × Node) → List (String × Node)
  perm : ∀ fs path entries, (arrange fs path entries).Perm entries

namespace ListingOrder

/-- The order in which entries are kept, which is that of their names. -/
def byName : ListingOrder := ⟨fun _ _ entries => entries, fun _ _ entries => .refl entries⟩

/-- The entries of the directory at a path, as they are named. -/
def list (order : ListingOrder) (fs : FileSystem) (path : String) :
    Except FileError (List (String × Node)) :=
  (fs.list path).map (order.arrange fs path)

end ListingOrder

namespace FileSystem

/-- Copies all below one directory to below another. A directory may be copied into itself: the
paths grow then until they are too long, which happens within `fuel` levels. -/
def copyDirs (order : ListingOrder) (source target : String) : (fuel : Nat) → FileChange Fault Unit
  | 0 => throw (.ofMessage FileError.nameTooLong.message)
  | fuel + 1 => do
    under s!"Failed to create {target}" (createDirs target)
    let entries ← (ask (order.list · source)).adapt fun e : FileError => Fault.ofMessage e.message
    entries.forM fun (name, node) => do
      let inner := entryPath source name
      let copy := entryPath target name
      if node.isDir then copyDirs order inner copy fuel
      else under s!"Failed to copy {inner}" (copyFile inner copy)

end FileSystem

end BuildScript
