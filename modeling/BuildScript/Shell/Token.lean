import BuildScript.Shell.Word

/-!
# Tokens of a command line

A command line is a sequence of words, operators, redirections and line ends. Each token knows
the line on which it stands. A flaw in a word takes the place of the word and ends the sequence.
-/

namespace BuildScript.Shell

/-- How a redirection connects a descriptor. -/
inductive Redirection where
  /-- Read from a file. -/
  | input
  /-- Write to a file, which is emptied. -/
  | output
  /-- Write to the end of a file. -/
  | append
  /-- Read from and write to a file. -/
  | both
  /-- Read from another descriptor. -/
  | sameInput
  /-- Write to another descriptor. -/
  | sameOutput
  deriving DecidableEq, Repr

/-- The descriptor that a redirection connects if none is given. -/
def Redirection.standard : Redirection → Nat
  | input | both | sameInput => 0
  | output | append | sameOutput => 1

/-- A token of a command line. -/
inductive Token where
  | word (word : Word)
  | operator (text : String)
  | redirect (descriptor : Nat) (kind : Redirection)
  | newline
  /-- The text cannot be read from here on. -/
  | flaw (message : String)
  deriving DecidableEq, Repr

/-- A token and its line. -/
structure Placed where
  token : Token
  line : Nat
  deriving DecidableEq, Repr

/-- The redirection with which a text starts, and what follows. -/
def redirectionHead? : Bytes → Option (Redirection × Bytes)
  | '<' :: '&' :: cs => some (.sameInput, cs)
  | '<' :: '>' :: cs => some (.both, cs)
  | '<' :: cs => some (.input, cs)
  | '>' :: '&' :: cs => some (.sameOutput, cs)
  | '>' :: '>' :: cs => some (.append, cs)
  | '>' :: '|' :: cs => some (.output, cs)
  | '>' :: cs => some (.output, cs)
  | _ => none

/-- The operator with which a text starts, and what follows. -/
def operatorHead? : Bytes → Option (String × Bytes)
  | '&' :: '&' :: cs => some ("&&", cs)
  | '|' :: '|' :: cs => some ("||", cs)
  | ';' :: ';' :: cs => some (";;", cs)
  | '&' :: cs => some ("&", cs)
  | '|' :: cs => some ("|", cs)
  | ';' :: cs => some (";", cs)
  | '(' :: cs => some ("(", cs)
  | ')' :: cs => some (")", cs)
  | _ => none

/-- The number that digits write. -/
def number? (digits : Bytes) : Option Nat :=
  if digits.isEmpty || !digits.all Char.isDigit then none
  else some (digits.foldl (fun n c => 10 * n + (c.toNat - '0'.toNat)) 0)

/-- The descriptor that a word is if a redirection follows it directly. -/
def descriptor? (word : Word) (rest : Bytes) : Option (Nat × Redirection × Bytes) := do
  let digits ← plainText? word
  let descriptor ← number? digits
  let (kind, rest) ← redirectionHead? rest
  some (descriptor, kind, rest)

/-- The token with which a text starts, and what follows. The text starts with no blank. -/
def tokenHead (cs : Bytes) : Token × Bytes :=
  match operatorHead? cs, redirectionHead? cs with
  | some (text, rest), _ => (.operator text, rest)
  | none, some (kind, rest) => (.redirect kind.standard kind, rest)
  | none, none =>
    match readWord .bare cs with
    | .error message => (.flaw message, [])
    | .ok (word, rest) =>
      match descriptor? word rest with
      | some (descriptor, kind, rest) => (.redirect descriptor kind, rest)
      | none => (.word word, rest)

/-- The tokens of a text that starts on a line. -/
def tokensFrom : (fuel line : Nat) → Bytes → List Placed
  | 0, _, _ | _, _, [] => []
  | fuel + 1, line, '\n' :: cs => ⟨.newline, line⟩ :: tokensFrom fuel (line + 1) cs
  | fuel + 1, line, '\\' :: '\n' :: cs => tokensFrom fuel (line + 1) cs
  | fuel + 1, line, c :: cs =>
    if c = ' ' || c = '\t' then tokensFrom fuel line cs
    else if c = '#' then tokensFrom fuel line (cs.dropWhile (· != '\n'))
    else
      let (token, rest) := tokenHead (c :: cs)
      let taken := (c :: cs).take (cs.length + 1 - rest.length)
      ⟨token, line⟩ :: tokensFrom fuel (line + taken.count '\n') rest

/-- The tokens of a text. -/
def tokens (cs : Bytes) : List Placed := tokensFrom (cs.length + 1) 1 cs

end BuildScript.Shell
