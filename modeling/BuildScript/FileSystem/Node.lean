/-!
# Nodes of a file system

A file system is a tree of nodes. A node is reached from the root by a list of names, its place.
`Node.get?` reads the node at a place and `Node.put` replaces it; entries of a directory are kept
in ascending order of their names.
-/

namespace BuildScript

/-- What there is at a place of a file system. -/
inductive Node where
  | file (content : ByteArray) (executable : Bool)
  | dir (entries : List (String × Node))
  /-- The program that runs command lines. -/
  | shell
  /-- A device that takes everything and holds nothing. -/
  | null

/-- The names that lead from the root to a node. -/
abbrev Place := List String

namespace Node

/-- The directory without entries. -/
def emptyDir : Node := dir []

instance : Inhabited Node := ⟨emptyDir⟩

/-- Whether a node is a directory. -/
def isDir : Node → Bool
  | dir _ => true
  | _ => false

/-- The entries of a directory. -/
def entries : Node → List (String × Node)
  | dir es => es
  | _ => []

/-- Entries in which `name` stands for `node`, or for nothing. -/
def setEntry (name : String) (node : Option Node) :
    List (String × Node) → List (String × Node)
  | [] => node.toList.map (name, ·)
  | (other, old) :: rest =>
    if name = other then node.toList.map (name, ·) ++ rest
    else if name < other then node.toList.map (name, ·) ++ (other, old) :: rest
    else (other, old) :: setEntry name node rest

/-- The node at a place. -/
def get? : Place → Node → Option Node
  | [], node => some node
  | name :: rest, node => (node.entries.lookup name).bind (get? rest)

/-- The tree with `node`, or nothing, at a place. Where a directory on the way is missing, nothing
changes; the root itself is never taken away. -/
def put (node : Option Node) : Place → Node → Node
  | [], root => node.getD root
  | [name], dir es => dir (setEntry name node es)
  | name :: rest, dir es =>
    match es.lookup name with
    | some child => dir (setEntry name (some (child.put node rest)) es)
    | none => dir es
  | _, root => root

/-- The tree with a directory at a place and at every place on the way. -/
def putDirs : Place → Node → Node
  | [], root => root
  | name :: rest, root =>
    let child := (root.entries.lookup name).getD emptyDir
    dir (setEntry name (some (child.putDirs rest)) root.entries)

/-- All that is below a directory, each with its path and the content if it is a file. The paths
begin with `start`; those of directories end with a slash. -/
def listing (start : String) : List (String × Node) → List (String × Option ByteArray)
  | [] => []
  | (name, .dir inner) :: rest =>
    let path := start ++ name ++ "/"
    (path, none) :: listing path inner ++ listing start rest
  | (name, .file content _) :: rest => (start ++ name, some content) :: listing start rest
  | (name, .shell) :: rest | (name, .null) :: rest =>
    (start ++ name, some .empty) :: listing start rest

end Node

end BuildScript
