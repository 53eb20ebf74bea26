import BuildScript.Shell.Word

/-!
# Arithmetic

The integer expressions of a command line. Numbers have 64 bits and wrap around; division goes
toward zero.
-/

namespace BuildScript.Shell

/-- An operator between two operands. -/
inductive Operator where
  | or | and | bitOr | bitXor | bitAnd
  | eq | ne | le | ge | lt | gt
  | shiftLeft | shiftRight | add | sub | mul | div | mod
  deriving DecidableEq, Repr

namespace Operator

/-- How operators are written and how tightly they bind; of two spellings with one start, the
longer comes first. -/
def spellings : List (String × Nat × Operator) :=
  [("||", 1, or), ("&&", 2, and), ("==", 6, eq), ("!=", 6, ne), ("<<", 8, shiftLeft),
    (">>", 8, shiftRight), ("<=", 7, le), (">=", 7, ge), ("<", 7, lt), (">", 7, gt), ("|", 3, bitOr),
    ("^", 4, bitXor), ("&", 5, bitAnd), ("+", 9, add), ("-", 9, sub), ("*", 10, mul),
    ("/", 10, div), ("%", 10, mod)]

/-- A truth value as a number. -/
def truth (b : Bool) : Int := if b then 1 else 0

/-- A number in the range of 64 bits. -/
def wrap (n : Int) : Int := n.bmod 0x10000000000000000

/-- A number as 64 bits. -/
def bits (n : Int) : BitVec 64 := BitVec.ofInt 64 n

/-- The result of an operator; nothing on a division by zero. -/
def result? (x y : Int) : Operator → Option Int
  | or => some (truth (x != 0 || y != 0))
  | and => some (truth (x != 0 && y != 0))
  | bitOr => some (bits x ||| bits y).toInt
  | bitXor => some (bits x ^^^ bits y).toInt
  | bitAnd => some (bits x &&& bits y).toInt
  | eq => some (truth (x == y))
  | ne => some (truth (x != y))
  | le => some (truth (decide (x ≤ y)))
  | ge => some (truth (decide (y ≤ x)))
  | lt => some (truth (decide (x < y)))
  | gt => some (truth (decide (y < x)))
  | shiftLeft => some (bits x <<< (y.toNat % 64)).toInt
  | shiftRight => some ((bits x).sshiftRight (y.toNat % 64)).toInt
  | add => some (wrap (x + y))
  | sub => some (wrap (x - y))
  | mul => some (wrap (x * y))
  | div => if y = 0 then none else some (wrap (x.tdiv y))
  | mod => if y = 0 then none else some (x.tmod y)

end Operator

/-- Reads an expression; the state is the text that is left. -/
abbrev Calculator := StateT Bytes (Except String)

namespace Calculator

/-- Drops blanks. -/
def skipBlanks : Calculator Unit := modify (·.dropWhile fun c => " \t\n".toList.contains c)

/-- The failure of a text that is no expression. -/
def noExpression {α : Type} : Calculator α := throw "expecting primary"

/-- The value of digits in a base. -/
def valueOf (base : Nat) (digits : Bytes) : Option Int :=
  digits.foldlM (fun (n : Int) c =>
    let d := if c.isDigit then c.toNat - '0'.toNat else c.toLower.toNat - 'a'.toNat + 10
    if d < base then some (min 0x7fffffffffffffff (n * base + d)) else none) 0

/-- The value of a number: octal after a zero, hexadecimal after `0x`. -/
def literal? : Bytes → Option Int
  | '0' :: 'x' :: digits | '0' :: 'X' :: digits =>
    if digits.isEmpty then none else valueOf 16 digits
  | '0' :: digits => valueOf 8 digits
  | digits => if digits.isEmpty then none else valueOf 10 digits

/-- The operator that comes next, if it binds at least so tightly. -/
def operator? (least : Nat) : Calculator (Option (Nat × Operator)) := do
  skipBlanks
  let cs ← get
  let found := Operator.spellings.find? fun (spelling, _) => spelling.toList.isPrefixOf cs
  match found with
  | some (spelling, strength, op) =>
    if strength < least then return none
    set (cs.drop spelling.length)
    return some (strength, op)
  | none => return none

mutual

/-- Reads an operand. -/
def primary (value : Bytes → Option Int) : (fuel : Nat) → Calculator Int
  | 0 => noExpression
  | fuel + 1 => do
    skipBlanks
    match ← get with
    | '(' :: rest =>
      set rest
      let n ← choice value fuel
      skipBlanks
      match ← get with
      | ')' :: rest =>
        set rest
        return n
      | _ => throw "expecting ')'"
    | '-' :: rest =>
      set rest
      return Operator.wrap (-(← primary value fuel))
    | '+' :: rest =>
      set rest
      primary value fuel
    | '~' :: rest =>
      set rest
      return -(← primary value fuel) - 1
    | '!' :: rest =>
      set rest
      return Operator.truth ((← primary value fuel) == 0)
    | cs =>
      let name := cs.takeWhile isNameChar
      set (cs.dropWhile isNameChar)
      match (if isName name then value name else literal? name) with
      | some n => return n
      | none => noExpression

/-- Reads operands whose operators bind at least so tightly. -/
def operands (value : Bytes → Option Int) (least : Nat) : (fuel : Nat) → Calculator Int
  | 0 => noExpression
  | fuel + 1 => do
    let first ← primary value fuel
    operandsFrom value least first fuel

/-- Reads the operators that follow an operand. -/
def operandsFrom (value : Bytes → Option Int) (least : Nat) (first : Int) :
    (fuel : Nat) → Calculator Int
  | 0 => noExpression
  | fuel + 1 => do
    match ← operator? least with
    | none => return first
    | some (strength, op) =>
      let second ← operands value (strength + 1) fuel
      match op.result? first second with
      | some n => operandsFrom value least n fuel
      | none => throw "division by zero"

/-- Reads a choice between two expressions, or a single one. -/
def choice (value : Bytes → Option Int) : (fuel : Nat) → Calculator Int
  | 0 => noExpression
  | fuel + 1 => do
    let test ← operands value 1 fuel
    skipBlanks
    match ← get with
    | '?' :: rest =>
      set rest
      let yes ← choice value fuel
      skipBlanks
      match ← get with
      | ':' :: rest =>
        set rest
        let no ← choice value fuel
        return if test != 0 then yes else no
      | _ => throw "expecting ':'"
    | _ => return test

end

end Calculator

/-- The result of an expression over the values of names. -/
def calculate (value : Bytes → Option Int) (expression : Bytes) : Except Bytes Int :=
  let whole : Calculator Int := do
    let n ← Calculator.choice value (4 * (expression.length + 1))
    Calculator.skipBlanks
    unless (← get).isEmpty do throw "expecting EOF"
    return n
  match whole.run expression with
  | .ok (n, _) => .ok n
  | .error message =>
    .error (s!"arithmetic expression: {message}: \"".toList ++ expression ++ ['"'])

/-- The assignment that an expression makes: the name, and the expression of its value. -/
def assignmentIn? (expression : Bytes) : Option (Bytes × Bytes) :=
  let cs := expression.dropWhile fun c => " \t\n".toList.contains c
  let name := cs.takeWhile isNameChar
  match (cs.dropWhile isNameChar).dropWhile (fun c => " \t\n".toList.contains c) with
  | '=' :: '=' :: _ => none
  | '=' :: value => if isName name then some (name, value) else none
  | c :: '=' :: value =>
    if isName name && "+-*/%&|^".toList.contains c then
      some (name, name ++ c :: '(' :: value ++ [')'])
    else none
  | _ => none

end BuildScript.Shell
