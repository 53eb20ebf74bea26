import BuildScript.Shell.Token

/-!
# Commands

What a command line says, as a tree. `nextCommand?` reads the tree of one line, or of as many lines
as belong together, so that a line can be carried out before the next is read.
-/

namespace BuildScript.Shell

/-- A redirection with its target. -/
structure Redirect where
  descriptor : Nat
  kind : Redirection
  target : Word
  deriving DecidableEq, Repr

/-- A command. -/
inductive Command where
  /-- Do nothing. -/
  | skip
  /-- Assign variables and run what the words name. -/
  | simple (line : Nat) (assignments : List (Bytes × Word)) (words : List Word)
      (redirects : List Redirect)
  | redirected (body : Command) (redirects : List Redirect)
  /-- Succeed if the body fails. -/
  | negation (body : Command)
  /-- Feed the output of the first to the second. -/
  | pipe (first second : Command)
  /-- Run the second if the first succeeds. -/
  | both (first second : Command)
  /-- Run the second if the first fails. -/
  | either (first second : Command)
  | sequence (first second : Command)
  /-- Run the body in a copy of the shell. -/
  | subshell (body : Command)
  | branch (test yes no : Command)
  /-- Run the body as long as the test succeeds, or fails if `inverted`. -/
  | loop (inverted : Bool) (test body : Command)
  /-- Run the body for each field of the words, or for each argument. -/
  | each (name : Bytes) (words : Option (List Word)) (body : Command)
  /-- Run the first body with a pattern that the subject matches. -/
  | choose (subject : Word) (cases : List (List Word × Command))
  | define (name : Bytes) (body : Command)

/-! ## Reading -/

/-- Why tokens make no command. -/
structure Flaw where
  message : String
  /-- The line of the token that does not fit; none if tokens are missing. -/
  line : Option Nat
  deriving DecidableEq, Repr

/-- A reader of tokens. -/
abbrev Parser := StateT (List Placed) (Except Flaw)

namespace Parser

/-- How messages name a token; quoted if it is a fixed one. -/
def describe : List Placed → String
  | [] => "end of file"
  | ⟨.newline, _⟩ :: _ => "newline"
  | ⟨.operator text, _⟩ :: _ => s!"\"{text}\""
  | ⟨.redirect _ _, _⟩ :: _ => "redirection"
  | ⟨.flaw message, _⟩ :: _ => message
  | ⟨.word w, _⟩ :: _ =>
    match plainText? w with
    | some text =>
      let name := String.ofList text
      if ["then", "else", "elif", "fi", "do", "done", "esac", "\x7d"].contains name then s!"\"{name}\""
      else "word"
    | none => "word"

/-- The failure at the next token. -/
def unexpected {α : Type} (expecting : Option String) : Parser α := do
  let rest ← get
  let line := rest.head?.map Placed.line
  let found := describe rest
  match rest, expecting with
  | ⟨.flaw message, _⟩ :: _, _ => throw ⟨message, line⟩
  | _, some wanted => throw ⟨s!"{found} unexpected (expecting \"{wanted}\")", line⟩
  | _, none => throw ⟨s!"{found} unexpected", line⟩

/-- The text of the next token, if it is an operator. -/
def operator? : Parser (Option String) := do
  match ← get with
  | ⟨.operator text, _⟩ :: _ => return some text
  | _ => return none

/-- The text of the next token, if it is a plain word. -/
def plain? : Parser (Option String) := do
  match ← get with
  | ⟨.word w, _⟩ :: _ => return (plainText? w).map String.ofList
  | _ => return none

/-- Drops the next token. -/
def advance : Parser Unit := modify List.tail

/-- Drops line ends. -/
def skipNewlines : Parser Unit := modify (·.dropWhile fun p => p.token = .newline)

/-- Drops the next token if it is this operator. -/
def acceptOperator (text : String) : Parser Bool := do
  let found := (← operator?) == some text
  if found then advance
  return found

/-- Drops the next token if it is this plain word. -/
def acceptWord (text : String) : Parser Bool := do
  let found := (← plain?) == some text
  if found then advance
  return found

/-- Drops this plain word, which must come next. -/
def expectWord (text : String) : Parser Unit := do
  unless ← acceptWord text do unexpected (some text)

/-- Drops this operator, which must come next. -/
def expectOperator (text : String) : Parser Unit := do
  unless ← acceptOperator text do unexpected (some text)

/-- Takes any word. -/
def word (expecting : Option String) : Parser Word := do
  match ← get with
  | ⟨.word w, _⟩ :: rest =>
    set rest
    return w
  | _ => unexpected expecting

/-- The words that end a list of commands. -/
def closers : List String := ["then", "else", "elif", "fi", "do", "done", "esac", "\x7d"]

/-- Whether a list of commands ends here. -/
def listEnds : Parser Bool := do
  match ← get with
  | [] => return true
  | _ =>
    if (← plain?).any closers.contains then return true
    return (← operator?).any [")", ";;"].contains

/-- Takes redirections. -/
def redirects : (fuel : Nat) → Parser (List Redirect)
  | 0 => return []
  | fuel + 1 => do
    match ← get with
    | ⟨.redirect descriptor kind, _⟩ :: _ =>
      advance
      let target ← word none
      return ⟨descriptor, kind, target⟩ :: (← redirects fuel)
    | _ => return []

/-- The assignment that a word makes. -/
def assignment? : Word → Option (Bytes × Word)
  | .text false text :: rest =>
    let name := text.takeWhile (· != '=')
    match text.dropWhile (· != '=') with
    | _ :: value =>
      if isName name then some (name, if value.isEmpty then rest else .text false value :: rest)
      else none
    | [] => none
  | _ => none

/-- What a simple command is made of. -/
structure Pieces where
  assignments : List (Bytes × Word) := []
  words : List Word := []
  redirects : List Redirect := []

/-- Takes the pieces of a simple command. -/
def pieces (acc : Pieces) : (fuel : Nat) → Parser Pieces
  | 0 => return acc
  | fuel + 1 => do
    match ← get with
    | ⟨.redirect descriptor kind, _⟩ :: _ =>
      advance
      let target ← word none
      pieces { acc with redirects := acc.redirects ++ [⟨descriptor, kind, target⟩] } fuel
    | ⟨.word w, _⟩ :: _ =>
      advance
      match acc.words, assignment? w with
      | [], some entry => pieces { acc with assignments := acc.assignments ++ [entry] } fuel
      | _, _ => pieces { acc with words := acc.words ++ [w] } fuel
    | _ => return acc

/-- Takes words up to the end of the list of a loop. -/
def wordList : (fuel : Nat) → Parser (List Word)
  | 0 => return []
  | fuel + 1 => do
    match ← get with
    | ⟨.word w, _⟩ :: _ =>
      advance
      return w :: (← wordList fuel)
    | _ => return []

/-- Takes patterns that are separated by bars. -/
def patterns : (fuel : Nat) → Parser (List Word)
  | 0 => return []
  | fuel + 1 => do
    let pattern ← word none
    if ← acceptOperator "|" then return pattern :: (← patterns fuel)
    return [pattern]

/-- The line of the next token. -/
def line : Parser Nat := return ((← get).head?.map Placed.line).getD 0

mutual

/-- Takes commands up to the word or operator that ends the list. -/
def list : (fuel : Nat) → Parser Command
  | 0 => unexpected none
  | fuel + 1 => do
    skipNewlines
    if ← listEnds then return .skip
    let first ← andOr fuel
    match ← get with
    | ⟨.newline, _⟩ :: _ => return .sequence first (← list fuel)
    | _ =>
      match ← operator? with
      | some ";" =>
        advance
        return .sequence first (← list fuel)
      | some "&" =>
        advance
        return .sequence (.subshell first) (← list fuel)
      | _ => return first

/-- Takes a list that must not be empty; `closer` is what ends it. -/
def body (closer : String) : (fuel : Nat) → Parser Command
  | 0 => unexpected none
  | fuel + 1 => do
    skipNewlines
    if (← get).isEmpty then unexpected (some closer)
    if ← listEnds then unexpected none
    list fuel

/-- Takes pipelines that depend on each other's success. -/
def andOr : (fuel : Nat) → Parser Command
  | 0 => unexpected none
  | fuel + 1 => do
    let first ← pipeline fuel
    andOrRest first fuel

/-- Takes what depends on the success of a pipeline. -/
def andOrRest (first : Command) : (fuel : Nat) → Parser Command
  | 0 => return first
  | fuel + 1 => do
    if ← acceptOperator "&&" then
      skipNewlines
      let second ← pipeline fuel
      andOrRest (.both first second) fuel
    else if ← acceptOperator "||" then
      skipNewlines
      let second ← pipeline fuel
      andOrRest (.either first second) fuel
    else return first

/-- Takes a pipeline. -/
def pipeline : (fuel : Nat) → Parser Command
  | 0 => unexpected none
  | fuel + 1 => do
    if ← acceptWord "!" then return .negation (← pipeline fuel)
    let first ← command fuel
    if ← acceptOperator "|" then
      skipNewlines
      return .pipe first (← pipeline fuel)
    return first

/-- Takes a command. -/
def command : (fuel : Nat) → Parser Command
  | 0 => unexpected none
  | fuel + 1 => do
    match ← compound? fuel with
    | some body =>
      match ← redirects fuel with
      | [] => return body
      | rs => return .redirected body rs
    | none =>
      if ← listEnds then unexpected none
      let start ← line
      let p ← pieces {} fuel
      match p.assignments, p.words, p.redirects with
      | [], [], [] => unexpected none
      | [], [w], [] =>
        if ← acceptOperator "(" then
          expectOperator ")"
          skipNewlines
          return .define ((plainText? w).getD []) (← command fuel)
        return .simple start [] [w] []
      | assignments, words, rs => return .simple start assignments words rs

/-- Takes a command that starts with a word or parenthesis of its own. -/
def compound? : (fuel : Nat) → Parser (Option Command)
  | 0 => return none
  | fuel + 1 => do
    if ← acceptOperator "(" then
      let inner ← body ")" fuel
      expectOperator ")"
      return some (.subshell inner)
    match ← plain? with
    | some "\x7b" =>
      advance
      let inner ← body "\x7d" fuel
      expectWord "\x7d"
      return some inner
    | some "if" =>
      advance
      return some (← conditional fuel)
    | some "while" =>
      advance
      let test ← body "do" fuel
      return some (.loop false test (← loopBody fuel))
    | some "until" =>
      advance
      let test ← body "do" fuel
      return some (.loop true test (← loopBody fuel))
    | some "for" =>
      advance
      return some (← forLoop fuel)
    | some "case" =>
      advance
      let subject ← word none
      skipNewlines
      expectWord "in"
      return some (.choose subject (← cases fuel))
    | _ => return none

/-- Takes what follows `if` or `elif`. -/
def conditional : (fuel : Nat) → Parser Command
  | 0 => unexpected none
  | fuel + 1 => do
    let test ← body "then" fuel
    expectWord "then"
    let yes ← body "fi" fuel
    if ← acceptWord "elif" then return .branch test yes (← conditional fuel)
    let no ← if ← acceptWord "else" then body "fi" fuel else pure .skip
    expectWord "fi"
    return .branch test yes no

/-- Takes the body of a loop. -/
def loopBody : (fuel : Nat) → Parser Command
  | 0 => unexpected none
  | fuel + 1 => do
    expectWord "do"
    let inner ← body "done" fuel
    expectWord "done"
    return inner

/-- Takes what follows `for`. -/
def forLoop : (fuel : Nat) → Parser Command
  | 0 => unexpected none
  | fuel + 1 => do
    let name := (plainText? (← word none)).getD []
    unless isName name do throw ⟨"Bad for loop variable", none⟩
    skipNewlines
    let words ← if ← acceptWord "in" then (wordList fuel).map some else pure none
    let _ ← acceptOperator ";"
    skipNewlines
    return .each name words (← loopBody fuel)

/-- Takes the cases up to `esac`. -/
def cases : (fuel : Nat) → Parser (List (List Word × Command))
  | 0 => unexpected none
  | fuel + 1 => do
    skipNewlines
    if ← acceptWord "esac" then return []
    let _ ← acceptOperator "("
    if (← get).isEmpty then unexpected (some ")")
    let subjects ← patterns fuel
    expectOperator ")"
    let inner ← list fuel
    if ← acceptOperator ";;" then return (subjects, inner) :: (← cases fuel)
    expectWord "esac"
    return [(subjects, inner)]

end

/-- Takes what is left of a line after its first commands. -/
def restOfLine (first : Command) : (fuel : Nat) → Parser Command
  | 0 => unexpected none
  | fuel + 1 => do
    match ← get with
    | [] => return first
    | ⟨.newline, _⟩ :: rest =>
      set rest
      return first
    | _ =>
      if ← acceptOperator ";" then followed first fuel
      else if ← acceptOperator "&" then followed (.subshell first) fuel
      else unexpected none
where
  /-- Takes what follows a separator, if it is not the end of the line. -/
  followed (first : Command) (fuel : Nat) : Parser Command := do
    match ← get with
    | [] => return first
    | ⟨.newline, _⟩ :: rest =>
      set rest
      return first
    | tokens => return .sequence first (← restOfLine (← andOr (16 * (tokens.length + 1))) fuel)

end Parser

/-- The command of the next line, and the tokens that follow; nothing if no line is left. -/
def nextCommand? (tokens : List Placed) : Except Flaw (Option (Command × List Placed)) :=
  match tokens.dropWhile fun p => p.token = .newline with
  | [] => .ok none
  | rest => do
    let fuel := 16 * (rest.length + 1)
    let line : Parser Command := do Parser.restOfLine (← Parser.andOr fuel) fuel
    let result ← line.run rest
    .ok (some result)

end BuildScript.Shell
