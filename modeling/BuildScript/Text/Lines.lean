/-!
# Lines of a text

A newline ends a line, and one carriage return directly before it belongs to the line end. Text
after the last newline is a line of its own when it is not empty, and keeps a carriage return
that it ends with.
-/

namespace BuildScript.Text

/-- Puts a character in front of the first line of a list of lines. -/
def consLine (c : Char) : List (List Char) → List (List Char)
  | [] => [[c]]
  | line :: rest => (c :: line) :: rest

/-- The lines of a text, without their line ends. -/
def lines : List Char → List (List Char)
  | [] => []
  | '\r' :: '\n' :: rest => [] :: lines rest
  | '\n' :: rest => [] :: lines rest
  | c :: rest => consLine c (lines rest)

end BuildScript.Text
