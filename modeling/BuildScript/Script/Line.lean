import BuildScript.Script.Arguments
import BuildScript.Script.Call
import BuildScript.Text.Lines

/-!
# Lines of a build script

A script is read line by line, and no line depends on another. A line is blank, a comment, a
target label such as `release:`, a call such as `compile("main.c", "app")`, or malformed. A
parenthesis makes a line a call, whatever else is on it; the arguments reach from the first
opening parenthesis to the last closing one, and what follows that is ignored.
-/

namespace BuildScript.Script

open Text

/-- Why a line means nothing. -/
inductive LineError where
  | missingOpenParen
  | missingCloseParen
  | missingName
  | emptyLabel
  deriving DecidableEq, Repr

/-- The wording of a line error. -/
def LineError.message : LineError → String
  | .missingOpenParen => "Expected a directive call `name(args)` or a target label `name:`"
  | .missingCloseParen => "Missing closing parenthesis"
  | .missingName => "Missing directive name before `(`"
  | .emptyLabel => "Empty target label"

/-- What one line of a script says. -/
inductive Line where
  | blank
  | comment
  | label (name : String)
  | call (call : Call)
  | malformed (error : LineError)
  deriving DecidableEq, Repr

/-- Whether a line is a call. -/
def Line.isCall : Line → Bool
  | .call _ => true
  | _ => false

/-! ## Reading a line -/

/-- The text before and after the first `mark`. -/
def cutFirst (mark : Char) (cs : List Char) : Option (List Char × List Char) :=
  match cs.span (· != mark) with
  | (_, []) => none
  | (before, _ :: after) => some (before, after)

/-- The text before the last `mark`. -/
def beforeLast (mark : Char) (cs : List Char) : Option (List Char) :=
  (cutFirst mark cs.reverse).map fun (_, before) => before.reverse

/-- A trimmed line that has no opening parenthesis. -/
def readLabel (line : List Char) : Line :=
  match line.reverse with
  | ':' :: name =>
    let name := stripEnd name.reverse
    if name.isEmpty then .malformed .emptyLabel else .label (String.ofList name)
  | _ => .malformed .missingOpenParen

/-- A trimmed line with the first opening parenthesis between `before` and `after`. -/
def readCall (before after : List Char) : Line :=
  let name := stripEnd before
  if name.isEmpty then .malformed .missingName
  else match beforeLast ')' after with
    | none => .malformed .missingCloseParen
    | some raw => .call ⟨String.ofList name, arguments raw⟩

/-- What a line says. -/
def Line.ofChars (line : List Char) : Line :=
  let line := strip line
  if line.isEmpty then .blank
  else if line.head? == some '#' then .comment
  else match cutFirst '(' line with
    | none => readLabel line
    | some (before, after) => readCall before after

/-- What a line says. -/
def Line.ofString (line : String) : Line := Line.ofChars line.toList

/-! ## Reading a script -/

/-- The lines of a script, numbered from `first`. -/
def numbered (first : Nat) : List (List Char) → List (Nat × Line)
  | [] => []
  | line :: rest => (first, Line.ofChars line) :: numbered (first + 1) rest

/-- What a script says, line by line, with line numbers from 1. -/
def parse (source : String) : List (Nat × Line) := numbered 1 (lines source.toList)

end BuildScript.Script
