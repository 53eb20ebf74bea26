import BuildScript.Shell.Condition
import BuildScript.Shell.Format
import BuildScript.Shell.Process

/-!
# Commands of the shell itself

The commands that a shell carries out without starting a program and without reading further
commands.
-/

namespace BuildScript.Shell

open Run

/-- The number by which a process is known to itself. -/
def processNumber : Bytes := "4242".toList

/-- Ends a command with an error of its own. -/
def refuse (name : Bytes) (status : Nat) (message : String) : Run Unit :=
  failWith status (name ++ ": ".toList ++ message.toList)

/-- A count that an operand gives; a wrong one ends the command line. -/
def count (name operand : Bytes) : Run Nat :=
  match number? operand with
  | some n => return n
  | none => abort 2 (name ++ ": Illegal number: ".toList ++ operand)

/-- Succeeds or fails. -/
def answer (holds : Bool) : Run Unit := setStatus (if holds then 0 else 1)

/-! ## Output -/

/-- `printf` -/
def runPrintf (name : Bytes) : List Bytes → Run Unit
  | [] | [['-', '-']] => refuse name 2 "usage: printf format [arg ...]"
  | ['-', '-'] :: format :: operands | format :: operands => do
    let printed := printfText format operands
    printed.complaints.forM fun complaint => complain (name ++ ": ".toList ++ complaint)
    write 1 printed.text
    setStatus printed.status

/-! ## Questions -/

/-- `test` -/
def runTest (name : Bytes) (operands : List Bytes) : Run Unit := do
  match holds (← fileSystem) operands with
  | .ok result => answer result
  | .error message => failWith 2 (name ++ ": ".toList ++ message)

/-- `[` -/
def runBracket (name : Bytes) (operands : List Bytes) : Run Unit :=
  if operands.getLast? == some [']'] then runTest name operands.dropLast
  else refuse name 2 "missing ]"

/-! ## The directory -/

/-- The path of a place. -/
def placeText (place : Place) : Bytes :=
  bytesOf ("/" ++ String.intercalate "/" place)

/-- `cd` -/
def runCd (name : Bytes) (operands : List Bytes) : Run Unit := do
  let old := (← process).directory
  let operand := (operands.filter (· != "--".toList)).head?
  let target ← match operand with
    | none => pure ((← valueOf? "HOME".toList).getD [])
    | some ['-'] => pure ((← valueOf? "OLDPWD".toList).getD (placeText old))
    | some target => pure target
  let path := if target.isEmpty then "." else textOf target
  let fs ← fileSystem
  match fs.hasDir path, fs.locate path with
  | true, .ok place =>
    modifyProcess ({ · with directory := place })
    assign "OLDPWD".toList (placeText old)
    assign "PWD".toList (placeText place)
    if operand = some ['-'] then write 1 (placeText place ++ ['\n'])
    setStatus 0
  | _, _ => failWith 2 (name ++ ": can't cd to ".toList ++ target)

/-! ## Variables and arguments -/

/-- The name and the value that an operand assigns. -/
def operandParts (operand : Bytes) : Bytes × Option Bytes :=
  (operand.takeWhile (· != '='), (operand.dropWhile (· != '=')).tail?)

/-- What becomes of a variable that is declared. -/
inductive Declaration where
  | exported
  | fixed
  | scoped
  deriving DecidableEq, Repr

/-- `export`, `readonly` and `local` -/
def runDeclare (declaration : Declaration) (operands : List Bytes) : Run Unit := do
  operands.forM fun operand => do
    let (name, value?) := operandParts operand
    if isName name then
      if declaration = .scoped then hide name
      if let some value := value? then assign name value
      if declaration = .exported then publish name
  setStatus 0

/-- `unset` -/
def runUnset (operands : List Bytes) : Run Unit := do
  let names := operands.filter fun operand => operand.head? != some '-'
  let functions := operands.contains "-f".toList
  modifyProcess fun p =>
    if functions then { p with functions := p.functions.filter fun f => !names.contains f.1 }
    else { p with bindings := names.foldl (fun vs n => vs.erase (String.ofList n)) p.bindings }
  setStatus 0

/-- `shift` -/
def runShift (name : Bytes) (operands : List Bytes) : Run Unit := do
  let n ← match operands with
    | [] => pure 1
    | operand :: _ => count name operand
  let args := (← process).args
  if args.length < n then abort 2 (name ++ ": can't shift that many".toList)
  modifyProcess ({ · with args := args.drop n })
  setStatus 0

/-- `set` -/
def runSet : List Bytes → Run Unit
  | [] => setStatus 0
  | operand :: rest => do
    if operand = "--".toList then
      modifyProcess ({ · with args := rest })
      setStatus 0
    else match operand with
      | '-' :: letters =>
        if letters.contains 'e' then modifyProcess ({ · with strict := true })
        if letters.contains 'u' then modifyProcess ({ · with bound := true })
        runSet rest
      | '+' :: letters =>
        if letters.contains 'e' then modifyProcess ({ · with strict := false })
        if letters.contains 'u' then modifyProcess ({ · with bound := false })
        runSet rest
      | _ =>
        modifyProcess ({ · with args := operand :: rest })
        setStatus 0

/-! ## Input -/

/-- The text of a line without the backslashes that keep characters from being special, and
whether each character was kept so. -/
def lineMarks (raw : Bool) : Bytes → List Marked
  | [] => []
  | '\\' :: c :: cs => if raw then ('\\', false) :: (c, false) :: lineMarks raw cs
    else if c = '\n' then lineMarks raw cs
    else (c, true) :: lineMarks raw cs
  | c :: cs => (c, false) :: lineMarks raw cs

/-- Gives the fields of a line to names; the last one gets what is left. -/
def assignFields (separators : Bytes) : List Bytes → List Marked → Run Unit
  | [], _ => return
  | [name], marks => do
    let blank (m : Marked) : Bool := !m.2 && separators.contains m.1 && " \t\n".toList.contains m.1
    let separates (m : Marked) : Bool := !m.2 && separators.contains m.1
    let text := ((marks.dropWhile blank).reverse.dropWhile blank).reverse
    let single := text.countP separates = 1 && text.getLast?.any separates
    assign name ((if single then text.dropLast else text).map Prod.fst)
  | name :: names, marks => do
    let separates (m : Marked) : Bool := !m.2 && separators.contains m.1
    let blank (m : Marked) : Bool := separates m && " \t\n".toList.contains m.1
    let marks := marks.dropWhile blank
    let rest := (marks.dropWhile (!separates ·)).dropWhile blank
    assign name ((marks.takeWhile (!separates ·)).map Prod.fst)
    assignFields separators names <| match rest with
      | m :: after => if separates m then after.dropWhile blank else m :: after
      | [] => []

/-- The length of the line with which a text starts, without its end. Unless `raw`, a line end
behind a backslash does not count. -/
def lineLength (raw : Bool) : Bytes → Nat
  | [] => 0
  | '\\' :: c :: cs => if raw && c = '\n' then 1 else lineLength raw cs + 2
  | c :: cs => if c = '\n' then 0 else lineLength raw cs + 1

/-- `read` -/
def runRead (name : Bytes) (operands : List Bytes) : Run Unit := do
  let raw := operands.contains "-r".toList
  let names := operands.filter fun operand => operand.head? != some '-'
  if names.isEmpty then
    refuse name 2 "arg count"
  else
    let input ← readable 0
    let length := lineLength raw input
    consume 0 (min (length + 1) input.length)
    assignFields (← separators) names (lineMarks raw (input.take length))
    answer (length < input.length)

/-! ## Control -/

/-- The signal of a name or number. -/
def signal? (name : Bytes) : Option Nat :=
  match number? name with
  | some n => some n
  | none =>
    let name := String.ofList name
    let known := [("HUP", 1), ("INT", 2), ("QUIT", 3), ("ABRT", 6), ("KILL", 9), ("USR1", 10),
      ("SEGV", 11), ("USR2", 12), ("PIPE", 13), ("ALRM", 14), ("TERM", 15)]
    known.lookup name <|> known.lookup (String.ofList (name.toList.drop 3))

/-- `kill`; only the process itself can be reached. -/
def runKill (name : Bytes) (operands : List Bytes) : Run Unit := do
  let (signal?, targets) := match operands with
    | ['-', 's'] :: signal :: rest => (signal? signal, rest)
    | ('-' :: signal) :: rest => (signal? signal, rest)
    | rest => (some 15, rest)
  match signal?, targets.contains processNumber with
  | some 0, true => setStatus 0
  | some signal, true => throw (.killed signal)
  | _, _ => refuse name 1 "No such process\n"

/-- The status that an operand asks for, or else that of the last command. -/
def statusOperand (name : Bytes) : List Bytes → Run Nat
  | [] => return (← process).status
  | operand :: _ => return (← count name operand) % 256

/-- `exit` and `return` -/
def runLeave (stop : Stop) (name : Bytes) (operands : List Bytes) : Run Unit := do
  setStatus (← statusOperand name operands)
  throw stop

/-- `break` and `continue` -/
def runLoopControl (stop : Nat → Stop) (name : Bytes) (operands : List Bytes) : Run Unit := do
  let n ← match operands with
    | [] => pure 1
    | operand :: _ => count name operand
  setStatus 0
  let loops := (← process).loops
  if 0 < loops then throw (stop (min n loops))

/-! ## The table -/

/-- The commands whose failing redirections end the command line, and whose assignments last. -/
def isSpecialBuiltin (name : String) : Bool :=
  [":", ".", "break", "continue", "eval", "exec", "exit", "export", "readonly", "return", "set",
    "shift", "times", "trap", "unset"].contains name

/-- The commands that read or run further commands. -/
def isControlCommand (name : String) : Bool :=
  ["eval", "exec", ".", "command", "type"].contains name

/-- The command of a name. -/
def builtin? (name : String) : Option (List Bytes → Run Unit) :=
  let word := name.toList
  match name with
  | ":" | "true" | "wait" | "trap" | "hash" | "times" => some fun _ => setStatus 0
  | "false" => some fun _ => setStatus 1
  | "umask" => some fun operands => do
    if operands.isEmpty then write 1 "0022\n".toList
    setStatus 0
  | "echo" => some fun operands => do
    write 1 (echoText operands)
    setStatus 0
  | "printf" => some (runPrintf word)
  | "test" => some (runTest word)
  | "[" => some (runBracket word)
  | "pwd" => some fun _ => do
    write 1 (placeText (← process).directory ++ ['\n'])
    setStatus 0
  | "cd" => some (runCd word)
  | "export" => some (runDeclare .exported)
  | "readonly" => some (runDeclare .fixed)
  | "local" => some (runDeclare .scoped)
  | "unset" => some runUnset
  | "shift" => some (runShift word)
  | "set" => some runSet
  | "read" => some (runRead word)
  | "kill" => some (runKill word)
  | "exit" => some (runLeave .exited word)
  | "return" => some (runLeave .returned word)
  | "break" => some (runLoopControl .leave word)
  | "continue" => some (runLoopControl .again word)
  | _ => none

/-- Whether a name stands for a command of the shell itself. -/
def isOwnCommand (name : String) : Bool := (builtin? name).isSome || isControlCommand name

end BuildScript.Shell
