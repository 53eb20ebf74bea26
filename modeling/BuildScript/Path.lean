/-!
# Paths

A path is the text by which a build script names a file or directory. Its separator is always
`/`: a path made from text has every backslash turned into one.

Paths are not resolved here. `join` puts one path under another, where an absolute path stays as
it is and the empty path stands for "here".
-/

namespace BuildScript

/-- The name of a file or directory, with `/` as its only separator. -/
structure Path where
  text : String
  deriving DecidableEq, Repr, Inhabited

namespace Path

/-- A backslash is read as a separator. -/
def separator (c : Char) : Char := if c = '\\' then '/' else c

/-- The path that a text names. -/
def ofString (s : String) : Path := ⟨String.ofList (s.toList.map separator)⟩

/-- The path with no text, which stands for the current directory. -/
def empty : Path := ⟨""⟩

instance : ToString Path := ⟨Path.text⟩

/-- Whether the path starts at the root. -/
def isAbsolute (p : Path) : Bool := p.text.toList.head? == some '/'

/-- A text without the slashes that it ends with. -/
def dropTrailingSlashes (cs : List Char) : List Char :=
  (cs.reverse.dropWhile (· == '/')).reverse

/-- The path that `s` names when it is read from the directory `p`. -/
def join (p : Path) (s : String) : Path :=
  let q := ofString s
  if q.isAbsolute || p.text.toList.isEmpty then q
  else ⟨String.ofList (dropTrailingSlashes p.text.toList ++ '/' :: q.text.toList)⟩

/-- The path as the log shows it inside other values. -/
def debugText (p : Path) : String := s!"Path({p.text})"

end Path

end BuildScript
