import BuildScript.Shell.Process

/-!
# Values of parameters

The text between the braces of a parameter says which value is meant and what is done with it.
-/

namespace BuildScript.Shell

open Run

/-- What is done with a value. -/
inductive ValueUse where
  | plain
  | length
  /-- Use the operand instead of a missing value. -/
  | orElse
  /-- Assign the operand to a missing value. -/
  | orAssign
  /-- Fail with the operand as message on a missing value. -/
  | orFail
  /-- Use the operand instead of a value that is there. -/
  | andThen
  | dropStart (longest : Bool)
  | dropEnd (longest : Bool)
  deriving DecidableEq, Repr

/-- The value that an expression means. -/
structure ValueExpression where
  name : Bytes
  use : ValueUse
  /-- Whether an empty value counts as missing. -/
  skipsEmpty : Bool
  operand : Bytes
  deriving DecidableEq, Repr

/-- The parameter with whose name a text starts, and what follows. -/
def nameHead? : Bytes → Option (Bytes × Bytes)
  | [] => none
  | c :: cs =>
    if isNameStart c then some ((c :: cs).takeWhile isNameChar, cs.dropWhile isNameChar)
    else if c.isDigit then some ((c :: cs).takeWhile Char.isDigit, cs.dropWhile Char.isDigit)
    else if isSpecial c then some ([c], cs)
    else none

/-- What a character says is done with a missing value or one that is there. -/
def useOf? : Char → Option ValueUse
  | '-' => some .orElse
  | '=' => some .orAssign
  | '?' => some .orFail
  | '+' => some .andThen
  | _ => none

/-- The value that a text between braces means. -/
def valueExpression? (text : Bytes) : Option ValueExpression :=
  let length? := match text with
    | '#' :: rest =>
      match nameHead? rest with
      | some (name, []) => some ⟨name, .length, false, []⟩
      | _ => none
    | _ => none
  length? <|> do
    let (name, rest) ← nameHead? text
    match rest with
    | [] => some ⟨name, .plain, false, []⟩
    | '%' :: '%' :: operand => some ⟨name, .dropEnd true, false, operand⟩
    | '%' :: operand => some ⟨name, .dropEnd false, false, operand⟩
    | '#' :: '#' :: operand => some ⟨name, .dropStart true, false, operand⟩
    | '#' :: operand => some ⟨name, .dropStart false, false, operand⟩
    | ':' :: c :: operand => do some ⟨name, ← useOf? c, true, operand⟩
    | c :: operand => do some ⟨name, ← useOf? c, false, operand⟩

/-- The arguments as one text. -/
def joinedArguments : List Bytes → Bytes := List.intercalate [' ']

/-- The value of a parameter, if it has one. -/
def parameter? (name : Bytes) : Run (Option Bytes) := do
  let p ← process
  match name with
  | ['?'] => return some (toString p.status).toList
  | ['#'] => return some (toString p.args.length).toList
  | ['$'] => return some "4242".toList
  | ['!'] | ['-'] => return some []
  | ['@'] | ['*'] => return if p.args.isEmpty then none else some (joinedArguments p.args)
  | name =>
    match number? name with
    | some 0 => return some p.name
    | some (n + 1) => return p.args[n]?
    | none => valueOf? name

end BuildScript.Shell
