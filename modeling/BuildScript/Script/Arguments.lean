import BuildScript.Text.Blank

/-!
# The arguments of a call

The text between the parentheses of a call holds its arguments. A quoted argument is everything
between two double quotes, taken as it stands; without a closing quote it runs to the end. A bare
argument starts at a non-blank character, runs up to the next comma and loses its trailing
blanks. Commas only end bare arguments: stray ones mean nothing. A quote that opens before a bare
argument has ended drops that argument.
-/

namespace BuildScript.Script

open Text

/-- What the reader of an argument list is inside of. The characters read so far are kept last
one first. -/
inductive Reading where
  /-- Between two arguments. -/
  | nothing
  /-- In a bare argument. -/
  | bare (read : List Char)
  /-- In a quoted argument. -/
  | quoted (read : List Char)
  deriving DecidableEq, Repr

/-- The argument that a bare text amounts to. -/
def bareArgument (read : List Char) : List Char := stripEnd read.reverse

/-- The arguments that a text holds from here on. -/
def Reading.arguments : Reading → List Char → List (List Char)
  | .nothing, [] => []
  | .bare read, [] => [bareArgument read]
  | .quoted read, [] => [read.reverse]
  | .nothing, c :: cs =>
    if c = '"' then arguments (.quoted []) cs
    else if c = ',' || isBlank c then arguments .nothing cs
    else arguments (.bare [c]) cs
  | .bare read, c :: cs =>
    if c = '"' then arguments (.quoted []) cs
    else if c = ',' then bareArgument read :: arguments .nothing cs
    else arguments (.bare (c :: read)) cs
  | .quoted read, c :: cs =>
    if c = '"' then read.reverse :: arguments .nothing cs
    else arguments (.quoted (c :: read)) cs

/-- The arguments in the text between the parentheses of a call. -/
def arguments (raw : List Char) : List String :=
  (Reading.nothing.arguments raw).map String.ofList

end BuildScript.Script
