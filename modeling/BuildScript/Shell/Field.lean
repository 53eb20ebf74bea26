import BuildScript.FileSystem.Operations
import BuildScript.Shell.Pattern

/-!
# Fields

The parts of a word yield atoms; atoms are cut into fields at separators that were not quoted;
and a field with an unquoted pattern is replaced by the paths that match it, if there are any.
-/

namespace BuildScript.Shell

/-- What the parts of a word yield. -/
inductive Atom where
  /-- A character. It can separate fields only if `cuts` says so. -/
  | char (c : Char) (quoted cuts : Bool)
  /-- There is a field here, even if it is empty. -/
  | kept
  /-- The field ends here. -/
  | cut
  deriving DecidableEq, Repr

/-- The atoms of a quoted text. -/
def quotedAtoms (text : Bytes) : List Atom := .kept :: text.map (.char · true false)

/-- The atoms of the value of an unquoted part. -/
def cutAtoms (text : Bytes) : List Atom := text.map (.char · false true)

/-- The atom as part of the value of an unquoted part. -/
def Atom.asValue : Atom → Atom
  | .char c false _ => .char c false true
  | atom => atom

/-- The text of atoms that are not cut into fields. -/
def joinedMarks (atoms : List Atom) : List Marked :=
  atoms.filterMap fun
    | .char c quoted _ => some (c, quoted)
    | .cut => some (' ', true)
    | .kept => none

/-- The text of marked characters. -/
def unmarked (marked : List Marked) : Bytes := marked.map Prod.fst

/-- The fields of atoms. `field` is the field under way; `blank` says that a blank has just ended
a field, so that a separator right after it ends no other. -/
def fieldsFrom (separators : Bytes) :
    (field : Option (List Marked)) → (blank : Bool) → List Atom → List (List Marked)
  | field, _, [] => field.toList
  | field, blank, .char c quoted cuts :: rest =>
    if cuts && separators.contains c then
      if " \t\n".toList.contains c then
        field.toList ++ fieldsFrom separators none (blank || field.isSome) rest
      else if blank && field.isNone then fieldsFrom separators none false rest
      else field.getD [] :: fieldsFrom separators none false rest
    else fieldsFrom separators (some (field.getD [] ++ [(c, quoted)])) false rest
  | field, blank, .kept :: rest =>
    fieldsFrom separators (some (field.getD [])) blank rest
  | field, _, .cut :: rest => field.toList ++ fieldsFrom separators none false rest

/-- The fields of atoms. -/
def fieldsOf (separators : Bytes) (atoms : List Atom) : List (List Marked) :=
  fieldsFrom separators none false atoms

/-! ## Paths -/

/-- The stretches between slashes. -/
def stretches : List Marked → List (List Marked)
  | [] => [[]]
  | (c, quoted) :: rest =>
    if c = '/' then [] :: stretches rest
    else match stretches rest with
      | [] => [[(c, quoted)]]
      | first :: all => ((c, quoted) :: first) :: all

/-- The names in a directory that a pattern matches. A dot at the start must be written. -/
def matchingNames (fs : FileSystem) (dir : Bytes) (gs : List Glob) : List Bytes :=
  let path := if dir.isEmpty then "." else textOf dir
  let entries := (fs.list path).toOption.getD []
  let names := ['.'] :: ['.', '.'] :: entries.map fun entry => bytesOf entry.1
  names.filter fun name =>
    matchesAll gs name && (name.head? != some '.' || gs.head? == some (Glob.char '.'))

/-- The paths that start with a text and go on as the stretches say. -/
def matchingFrom (fs : FileSystem) (start : Bytes) : List (List Marked) → List Bytes
  | [] => [start]
  | stretch :: rest =>
    let gs := globs stretch
    let names := if isPattern gs then matchingNames fs start gs else [unmarked stretch]
    let paths := names.map (start ++ ·)
    match rest with
    | [] => paths.filter fun path => fs.has (textOf path)
    | _ :: _ => paths.flatMap fun path => matchingFrom fs (path ++ ['/']) rest

/-- The paths that a field stands for, or else its text. -/
def pathsOf (fs : FileSystem) (field : List Marked) : List Bytes :=
  if isPattern (globs field) then
    match matchingFrom fs [] (stretches field) with
    | [] => [unmarked field]
    | paths => paths
  else [unmarked field]

end BuildScript.Shell
