import BuildScript.FileSystem.Operations
import BuildScript.Shell.Token

/-!
# Conditions

What the operands of `test` ask: about files, texts and numbers.
-/

namespace BuildScript.Shell

/-- The integer that a text writes, if it writes one. -/
def integer? (text : Bytes) : Option Int :=
  let blank (c : Char) : Bool := " \t\n".toList.contains c
  let text := ((text.dropWhile blank).reverse.dropWhile blank).reverse
  match text with
  | '-' :: digits => (number? digits).map fun n => -(n : Int)
  | '+' :: digits => (number? digits).map Int.ofNat
  | digits => (number? digits).map Int.ofNat

/-- A comparison of two numbers. -/
def comparison? : String → Option (Int → Int → Bool)
  | "-eq" => some fun x y => x == y
  | "-ne" => some fun x y => x != y
  | "-lt" => some fun x y => decide (x < y)
  | "-le" => some fun x y => decide (x ≤ y)
  | "-gt" => some fun x y => decide (y < x)
  | "-ge" => some fun x y => decide (y ≤ x)
  | _ => none

/-- A question about one operand. -/
def question? (fs : FileSystem) : String → Option (Bytes → Bool)
  | "-n" => some fun s => !s.isEmpty
  | "-z" => some List.isEmpty
  | "-e" => some fun s => fs.has (textOf s)
  | "-f" => some fun s => match fs.find (textOf s) with
    | .ok (.file _ _) | .ok .shell => true
    | _ => false
  | "-d" => some fun s => fs.hasDir (textOf s)
  | "-s" => some fun s => match fs.find (textOf s) with
    | .ok (.file content _) => content.size != 0
    | .ok (.dir _) | .ok .shell => true
    | _ => false
  | "-r" | "-w" => some fun s => fs.has (textOf s)
  | "-x" => some fun s => match fs.find (textOf s) with
    | .ok (.file _ executable) => executable
    | .ok (.dir _) | .ok .shell => true
    | _ => false
  | "-c" => some fun s => match fs.find (textOf s) with
    | .ok .null => true
    | _ => false
  | "-h" | "-L" | "-p" | "-S" | "-b" | "-t" | "-u" | "-g" | "-k" => some fun _ => false
  | _ => none

/-- The number that an operand writes. -/
def operandInteger (operand : Bytes) : Except Bytes Int :=
  match integer? operand with
  | some n => .ok n
  | none => .error ("Illegal number: ".toList ++ operand)

/-- A relation between two operands; nothing if the operator is none. -/
def relation? (x op y : Bytes) : Option (Except Bytes Bool) :=
  match String.ofList op with
  | "=" => some (.ok (x == y))
  | "!=" => some (.ok (x != y))
  | "<" => some (.ok (decide (x < y)))
  | ">" => some (.ok (decide (y < x)))
  | op => (comparison? op).map fun compare => do
    return compare (← operandInteger x) (← operandInteger y)

mutual

/-- Asks alternatives, and says what follows them. -/
def alternatives (fs : FileSystem) : (fuel : Nat) → List Bytes → Except Bytes (Bool × List Bytes)
  | 0, _ => .error "too deep".toList
  | fuel + 1, operands => do
    match ← conjunction fs fuel operands with
    | (first, ['-', 'o'] :: rest) =>
      let (second, rest) ← alternatives fs fuel rest
      .ok (first || second, rest)
    | result => .ok result

/-- Asks conditions that must all hold. -/
def conjunction (fs : FileSystem) : (fuel : Nat) → List Bytes → Except Bytes (Bool × List Bytes)
  | 0, _ => .error "too deep".toList
  | fuel + 1, operands => do
    match ← single fs fuel operands with
    | (first, ['-', 'a'] :: rest) =>
      let (second, rest) ← conjunction fs fuel rest
      .ok (first && second, rest)
    | result => .ok result

/-- Asks one condition. -/
def single (fs : FileSystem) : (fuel : Nat) → List Bytes → Except Bytes (Bool × List Bytes)
  | 0, _ => .error "too deep".toList
  | _, [] => .error "argument expected".toList
  | fuel + 1, x :: rest =>
    match rest with
    | op :: y :: after =>
      match relation? x op y with
      | some result => result.map (·, after)
      | none => shorter fs fuel x rest
    | _ => shorter fs fuel x rest

/-- Asks a condition that is no relation of two operands. -/
def shorter (fs : FileSystem) (fuel : Nat) (x : Bytes) (rest : List Bytes) :
    Except Bytes (Bool × List Bytes) :=
  match fuel, x, rest with
  | fuel + 1, ['!'], _ :: _ => do
    let (answer, after) ← single fs fuel rest
    .ok (!answer, after)
  | fuel + 1, ['('], _ :: _ => do
    match ← alternatives fs fuel rest with
    | (answer, [')'] :: after) => .ok (answer, after)
    | _ => .error "closing paren expected".toList
  | _, _, operand :: after =>
    match question? fs (String.ofList x) with
    | some ask => .ok (ask operand, after)
    | none => .ok (!x.isEmpty, rest)
  | _, _, [] => .ok (!x.isEmpty, [])

end

/-- Whether the operands of `test` hold. -/
def holds (fs : FileSystem) (operands : List Bytes) : Except Bytes Bool :=
  match operands with
  | [] => .ok false
  | [x] => .ok (!x.isEmpty)
  | _ => do
    match ← alternatives fs (4 * (operands.length + 1)) operands with
    | (answer, []) => .ok answer
    | (_, rest) =>
      let last := (operands.take (operands.length - rest.length)).getLast?.getD []
      .error (last ++ ": unexpected operator".toList)

end BuildScript.Shell
