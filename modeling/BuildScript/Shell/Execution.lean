import BuildScript.Shell.Arithmetic
import BuildScript.Shell.Builtin
import BuildScript.Shell.Expansion
import BuildScript.Shell.Field
import BuildScript.Shell.Program
import BuildScript.Shell.Redirect

/-!
# Carrying out command lines

The fields of words, the effects of redirections and the runs of commands depend on each other:
a word may hold a command line, and a program may be a script. Each of the functions below has a
measure of fuel, which goes down with every call, so that all of them end; a command line that
runs out of fuel stops.
-/

namespace BuildScript.Shell

open Run

/-- One round of a loop; whether the loop goes on. -/
def runRound (step : Run Unit) : Run Bool := do
  let loops := (← process).loops
  modifyProcess ({ · with loops := loops + 1 })
  let goesOn ← tryCatch (do
    step
    return true) fun stop => do
      modifyProcess ({ · with loops })
      match stop with
      | .leave (n + 2) => throw (.leave (n + 1))
      | .leave _ => return false
      | .again (n + 2) => throw (.again (n + 1))
      | .again _ => return true
      | stop => throw stop
  modifyProcess ({ · with loops })
  return goesOn

/-- A step during which variables have other values. -/
def withVariables (values : List (Bytes × Bytes)) (step : Run Unit) : Run Unit := do
  let old := (← process).bindings
  values.forM fun (name, value) => do
    assign name value
    publish name
  ensuring step <| modifyProcess fun p =>
    let restored := values.foldl (fun (vs : OrderedMap Variable) entry =>
      let key := String.ofList entry.1
      match old.get? key with
      | some v => vs.insert key v
      | none => vs.erase key) p.bindings
    { p with bindings := restored }

/-- What the system prints when a signal ends a program. -/
def signalText : Nat → String
  | 1 => "Hangup"
  | 3 => "Quit"
  | 6 => "Aborted"
  | 9 => "Killed"
  | 11 => "Segmentation fault"
  | 15 => "Terminated"
  | _ => ""

/-- Makes the process that of a program, which sees the exported variables only. -/
def become (name : Bytes) (args : List Bytes) : Run Unit :=
  modifyProcess fun p => { p with
    name, args
    bindings := ⟨p.bindings.entries.filter fun entry => entry.2.exported⟩
    functions := []
    status := 0
    line := 1
    strict := false
    bound := false
    loops := 0
    hidden := [] }

/-- Runs a step as a process of its own, and notes how it ended. -/
def inChild (step : Run Unit) : Run Unit := do
  let p ← process
  let signal ← tryCatch (do
    step
    return 0) fun
    | .killed signal => return signal
    | _ => return 0
  let last := (← process).status
  modifyProcess fun _ => { p with status := if signal = 0 then last else 128 + signal }
  let text := signalText signal
  unless text.isEmpty do write 2 (text.toList ++ ['\n'])

/-- Runs the body of a function: its arguments and local variables end with it. -/
def inFunction (args : List Bytes) (body : Run Unit) : Run Unit := do
  let p ← process
  modifyProcess ({ · with args, hidden := [], loops := 0 })
  let returning := tryCatch body fun
    | .returned => return
    | stop => throw stop
  ensuring returning <| modifyProcess fun q =>
    let bindings := q.hidden.foldl (fun (vs : OrderedMap Variable) entry =>
      match entry.2 with
      | some v => vs.insert entry.1 v
      | none => vs.erase entry.1) q.bindings
    { q with args := p.args, bindings, hidden := p.hidden, loops := p.loops }

/-! ## Words and commands -/

/-- The integer value of a variable; a missing one counts as zero. -/
def integerValue (p : Process) (name : Bytes) : Option Int :=
  match p.bindings.get? (String.ofList name) with
  | some v => if v.value.isEmpty then some 0 else Calculator.literal? v.value
  | none => some 0

/-- Output without its last line ends, as a word takes it. -/
def withoutLastNewlines (text : Bytes) : Bytes :=
  (text.reverse.dropWhile (· = '\n')).reverse.filter (· != '\x00')

/-- Ends a strict command line after a failure that is not tested. -/
def endIfStrict (tested : Bool) : Run Unit := do
  let p ← process
  if p.strict && !tested && p.status != 0 then throw .exited

/-- The line on which a text ends. -/
def lineBehind (tokens : List Placed) : Nat :=
  match tokens.getLast? with
  | some ⟨.newline, line⟩ => line + 1
  | some ⟨_, line⟩ => line
  | none => 1

/-- Stops a command line that has run out of fuel. -/
def exhausted {α : Type} : Run α := throw .exited

mutual

/-- What a part of a word yields. -/
def partAtoms : (fuel : Nat) → Part → Run (List Atom)
  | 0, _ => exhausted
  | _, .text quoted text =>
    return if quoted then quotedAtoms text else text.map (.char · false false)
  | fuel + 1, .value quoted text =>
    match valueExpression? text with
    | some e => valueAtoms fuel quoted e
    | none => abort 2 "Bad substitution".toList
  | fuel + 1, .output quoted command => do
    let text ← outputOf fuel command
    return if quoted then quotedAtoms text else cutAtoms text
  | fuel + 1, .number quoted expression => do
    let n ← numberOf fuel expression
    let digits := (toString n).toList
    return if quoted then quotedAtoms digits else cutAtoms digits

/-- What the value of a parameter yields. -/
def valueAtoms (fuel : Nat) (quoted : Bool) (e : ValueExpression) : Run (List Atom) :=
  match fuel with
  | 0 => exhausted
  | fuel + 1 => do
    let value? ← parameter? e.name
    let atomsOf (text : Bytes) : List Atom := if quoted then quotedAtoms text else cutAtoms text
    let present := value?.any fun value => !(e.skipsEmpty && value.isEmpty)
    let value := value?.getD []
    match e.use with
    | .plain =>
      let args := (← process).args
      if e.name = ['@'] || (e.name = ['*'] && !quoted) then
        return List.intercalate [.cut] (args.map atomsOf)
      else if e.name = ['*'] then
        let between := (← separators).take 1
        return quotedAtoms (List.intercalate between args)
      else if value?.isNone && (← process).bound && !(e.name.all isSpecial && number? e.name = none)
      then abort 2 (e.name ++ ": parameter not set".toList)
      else return atomsOf value
    | .length => return atomsOf (toString value.length).toList
    | .orElse =>
      if present then return atomsOf value
      return (← operandAtoms fuel quoted e.operand).map Atom.asValue
    | .andThen =>
      if !present then return atomsOf []
      return (← operandAtoms fuel quoted e.operand).map Atom.asValue
    | .orAssign =>
      if present then return atomsOf value
      let text := unmarked (joinedMarks (← operandAtoms fuel quoted e.operand))
      assign e.name text
      return atomsOf text
    | .orFail =>
      if present then return atomsOf value
      let text := unmarked (joinedMarks (← operandAtoms fuel quoted e.operand))
      let missing := if e.skipsEmpty then "parameter not set or null" else "parameter not set"
      let reason := if e.operand.isEmpty then missing.toList else text
      abort 2 (e.name ++ ": ".toList ++ reason)
    | .dropStart longest =>
      let gs := globs (joinedMarks (← operandAtoms fuel false e.operand))
      return atomsOf (dropStart longest gs value)
    | .dropEnd longest =>
      let gs := globs (joinedMarks (← operandAtoms fuel false e.operand))
      return atomsOf (dropEnd longest gs value)

/-- What the operand of a parameter yields. -/
def operandAtoms (fuel : Nat) (quoted : Bool) (operand : Bytes) : Run (List Atom) :=
  match fuel with
  | 0 => exhausted
  | fuel + 1 => do
    match readWord (.operand quoted) operand with
    | .ok (word, _) => wordAtoms fuel word
    | .error message => abort 2 ("Syntax error: ".toList ++ message.toList)

/-- What a word yields. -/
def wordAtoms : (fuel : Nat) → Word → Run (List Atom)
  | 0, _ => exhausted
  | fuel + 1, word => return (← word.mapM fun part => partAtoms fuel part).flatten

/-- The text of a word that is not cut into fields. -/
def wordText : (fuel : Nat) → Word → Run Bytes
  | 0, _ => exhausted
  | fuel + 1, word => return unmarked (joinedMarks (← wordAtoms fuel word))

/-- The fields of words. -/
def wordFields : (fuel : Nat) → List Word → Run (List Bytes)
  | 0, _ => exhausted
  | fuel + 1, words => do
    let fields ← words.mapM fun word => do
      let atoms ← wordAtoms fuel word
      let fs ← fileSystem
      return (fieldsOf (← separators) atoms).flatMap (pathsOf fs)
    return fields.flatten

/-- The output of a command line. -/
def outputOf : (fuel : Nat) → Bytes → Run Bytes
  | 0, _ => exhausted
  | fuel + 1, text => do
    let stream ← newStream (.pipe [])
    let status := (← process).status
    inCopy do
      connect 1 stream
      runText fuel text
    modifyProcess fun p => { p with status, substituted := p.status }
    match (← get).streams[stream]? with
    | some (.pipe content) => return withoutLastNewlines content
    | _ => return []

/-- The result of an arithmetic expression. -/
def numberOf : (fuel : Nat) → Bytes → Run Int
  | 0, _ => exhausted
  | fuel + 1, expression => do
    let text := unmarked (joinedMarks (← operandAtoms fuel true expression))
    let p ← process
    match assignmentIn? text with
    | some (name, value) =>
      match calculate (integerValue p) value with
      | .ok n =>
        assign name (toString n).toList
        return n
      | .error message => abort 2 message
    | none =>
      match calculate (integerValue p) text with
      | .ok n => return n
      | .error message => abort 2 message

/-- Connects descriptors as redirections say; whether that was possible. -/
def redirectAll : (fuel : Nat) → List Redirect → Run Bool
  | 0, _ => exhausted
  | _, [] => return true
  | fuel + 1, r :: rest => do
    if ← redirectTo r.descriptor r.kind (← wordText fuel r.target) then redirectAll fuel rest
    else return false

/-- Runs a command. A failure of a `tested` command does not end a strict command line. -/
def runCommand : (fuel : Nat) → (tested : Bool) → Command → Run Unit
  | 0, _, _ => exhausted
  | _, _, .skip => return
  | fuel + 1, tested, .simple line assignments words redirects => do
    modifyProcess ({ · with line, substituted := 0 })
    runSimple fuel tested assignments (← wordFields fuel words) redirects
    endIfStrict tested
  | fuel + 1, tested, .redirected body redirects =>
    keepingDescriptors do
      if ← redirectAll fuel redirects then runCommand fuel tested body
  | fuel + 1, _, .negation body => do
    runCommand fuel true body
    answer ((← process).status != 0)
  | fuel + 1, tested, .pipe first second => do
    let stream ← newStream (.pipe [])
    inCopy do
      connect 1 stream
      runCommand fuel true first
    inCopy do
      connect 0 stream
      runCommand fuel tested second
    endIfStrict tested
  | fuel + 1, tested, .both first second => do
    runCommand fuel true first
    if (← process).status = 0 then runCommand fuel tested second
  | fuel + 1, tested, .either first second => do
    runCommand fuel true first
    if (← process).status != 0 then runCommand fuel tested second
  | fuel + 1, tested, .sequence first second => do
    runCommand fuel tested first
    runCommand fuel tested second
  | fuel + 1, tested, .subshell body => do
    inCopy (runCommand fuel tested body)
    endIfStrict tested
  | fuel + 1, tested, .branch test yes no => do
    runCommand fuel true test
    if (← process).status = 0 then runCommand fuel tested yes
    else
      setStatus 0
      runCommand fuel tested no
  | fuel + 1, tested, .loop inverted test body => runLoop fuel tested 0 inverted test body
  | fuel + 1, tested, .each name words body => do
    let fields ← match words with
      | some words => wordFields fuel words
      | none => pure (← process).args
    setStatus 0
    runEach fuel tested name body fields
  | fuel + 1, tested, .choose subject cases => do
    let text ← wordText fuel subject
    setStatus 0
    runChoice fuel tested text cases
  | _, _, .define name body => do
    modifyProcess fun p =>
      { p with functions := (name, body) :: p.functions.filter (·.1 != name) }
    setStatus 0

/-- Runs the rounds of a loop; `last` is how the last round ended. -/
def runLoop (fuel : Nat) (tested : Bool) (last : Nat) (inverted : Bool) (test body : Command) :
    Run Unit :=
  match fuel with
  | 0 => exhausted
  | fuel + 1 => do
    let goesOn ← runRound do
      runCommand fuel true test
      if ((← process).status = 0) = inverted then
        setStatus last
        throw (.leave 1)
      runCommand fuel tested body
    if goesOn then runLoop fuel tested (← process).status inverted test body

/-- Runs a body for each field. -/
def runEach (fuel : Nat) (tested : Bool) (name : Bytes) (body : Command) (fields : List Bytes) :
    Run Unit :=
  match fuel, fields with
  | 0, _ => exhausted
  | _, [] => return
  | fuel + 1, field :: rest => do
    assign name field
    if ← runRound (runCommand fuel tested body) then runEach fuel tested name body rest

/-- Runs the body of the first case that a text matches. -/
def runChoice (fuel : Nat) (tested : Bool) (text : Bytes) (cases : List (List Word × Command)) :
    Run Unit :=
  match fuel, cases with
  | 0, _ => exhausted
  | _, [] => return
  | fuel + 1, (patterns, body) :: rest => do
    let found ← patterns.anyM fun pattern => do
      return matchesAll (globs (joinedMarks (← wordAtoms fuel pattern))) text
    if found then runCommand fuel tested body else runChoice fuel tested text rest

/-- Runs a simple command with its fields. -/
def runSimple (fuel : Nat) (tested : Bool) (assignments : List (Bytes × Word)) (fields : List Bytes)
    (redirects : List Redirect) : Run Unit :=
  match fuel, fields with
  | 0, _ => exhausted
  | fuel + 1, [] => keepingDescriptors do
    if ← redirectAll fuel redirects then
      assignments.forM fun (name, word) => do assign name (← wordText fuel word)
      setStatus (← process).substituted
  | fuel + 1, name :: args => do
    let values ← assignments.mapM fun (v, word) => do
      return (v, ← wordText fuel word)
    let key := String.ofList name
    if key = "exec" then
      unless ← redirectAll fuel redirects do throw .exited
      match args with
      | [] => setStatus 0
      | program :: rest =>
        withVariables values do
          match ← locateProgram program with
          | .missing => abort 127 ("exec: ".toList ++ program ++ ": not found".toList)
          | .forbidden => abort 126 ("exec: ".toList ++ program ++ ": Permission denied".toList)
          | found => runLocated fuel program rest found
        throw .exited
    else if isSpecialBuiltin key then keepingDescriptors do
      unless ← redirectAll fuel redirects do throw .exited
      values.forM fun (v, value) => assign v value
      runNamed fuel tested name args
    else keepingDescriptors do
      if ← redirectAll fuel redirects then withVariables values (runNamed fuel tested name args)

/-- Runs the function, the command of the shell or the program of a name. -/
def runNamed (fuel : Nat) (tested : Bool) (name : Bytes) (args : List Bytes) : Run Unit :=
  match fuel with
  | 0 => exhausted
  | fuel + 1 => do
    let p ← process
    let key := String.ofList name
    match p.functions.lookup name, builtin? key with
    | some body, _ => inFunction args (runCommand fuel tested body)
    | none, some builtin => builtin args
    | none, none =>
      match key, args with
      | "eval", _ =>
        setStatus 0
        runText fuel (joinedArguments args)
      | ".", file :: _ =>
        unless file.contains '/' do abort 2 (".: ".toList ++ file ++ ": not found".toList)
        match (← fileSystem).load (textOf file) with
        | .ok content =>
          tryCatch (runText fuel (bytesOfArray content)) fun
            | .returned => return
            | stop => throw stop
        | .error e =>
          let trouble := (fileTrouble false e).toList
          abort 2 (".: cannot open ".toList ++ file ++ ": ".toList ++ trouble)
      | "command", ['-', 'v'] :: program :: _ => describeCommand program
      | "command", program :: rest =>
        match builtin? (String.ofList program) with
        | some builtin => builtin rest
        | none => runProgram fuel program rest
      | "command", [] | ".", [] => setStatus 0
      | "type", names => describeAll fuel true names
      | _, _ => runProgram fuel name args

/-- Runs a program. -/
def runProgram (fuel : Nat) (name : Bytes) (args : List Bytes) : Run Unit :=
  match fuel with
  | 0 => exhausted
  | fuel + 1 => do
    match ← locateProgram name with
    | .missing => failWith 127 (name ++ ": not found".toList)
    | .forbidden => failWith 126 (name ++ ": Permission denied".toList)
    | found => inChild (runLocated fuel name args found)

/-- Runs a program in the place of the process. -/
def runLocated (fuel : Nat) (name : Bytes) (args : List Bytes) (program : Located) : Run Unit :=
  match fuel, program with
  | 0, _ => exhausted
  | fuel + 1, .script path text option => do
    become path args
    unless option.isEmpty do runSet [option]
    runText fuel text
  | fuel + 1, .shell _ => do
    become name args
    runShell fuel args
  | _, .missing | _, .forbidden => return

/-- Runs the shell as a program. -/
def runShell (fuel : Nat) (args : List Bytes) : Run Unit :=
  match fuel, args with
  | 0, _ => exhausted
  | fuel + 1, ('-' :: letters) :: rest => do
    runSet [('-' :: letters)]
    if letters.contains 'c' then
      match rest with
      | command :: name :: args =>
        modifyProcess ({ · with name, args })
        runText fuel command
      | [command] =>
        modifyProcess ({ · with args := [] })
        runText fuel command
      | [] => abort 2 "-c requires an argument".toList
    else runShell fuel rest
  | fuel + 1, file :: args => do
    match (← fileSystem).load (textOf file) with
    | .ok content =>
      modifyProcess ({ · with name := file, args })
      runText fuel (bytesOfArray content)
    | .error e =>
      modifyProcess ({ · with line := 0 })
      abort 2 ("cannot open ".toList ++ file ++ ": ".toList ++ (fileTrouble false e).toList)
  | fuel + 1, [] => do
    let text ← readable 0
    consume 0 text.length
    runText fuel text

/-- Says what names stand for, whether each stands for something. -/
def describeAll (fuel : Nat) (known : Bool) (names : List Bytes) : Run Unit :=
  match fuel, names with
  | 0, _ => exhausted
  | _, [] => setStatus (if known then 0 else 127)
  | fuel + 1, name :: rest => do
    let key := String.ofList name
    let functions := (← process).functions
    let text ←
      if (functions.lookup name).isSome then pure " is a shell function"
      else if isSpecialBuiltin key then pure " is a special shell builtin"
      else if isOwnCommand key then pure " is a shell builtin"
      else match ← locateProgram name with
        | .script path _ _ | .shell path => pure (" is " ++ String.ofList path)
        | _ => pure ": not found"
    write 1 (name ++ text.toList ++ ['\n'])
    describeAll fuel (known && text != ": not found") rest

/-- Says what a name stands for, if it stands for something. -/
def describeCommand (name : Bytes) : Run Unit := do
  let key := String.ofList name
  if isOwnCommand key || ((← process).functions.lookup name).isSome then
    write 1 (name ++ ['\n'])
    setStatus 0
  else
    match ← locateProgram name with
    | .script path _ _ | .shell path =>
      write 1 (path ++ ['\n'])
      setStatus 0
    | _ => setStatus 127

/-- Runs a text, line by line. -/
def runText : (fuel : Nat) → Bytes → Run Unit
  | 0, _ => exhausted
  | fuel + 1, text => runTokens fuel (tokens text)

/-- Runs the lines that are left of a text. -/
def runTokens : (fuel : Nat) → List Placed → Run Unit
  | 0, _ => exhausted
  | fuel + 1, rest => do
    match nextCommand? rest with
    | .ok none => return
    | .ok (some (command, rest)) =>
      runCommand fuel false command
      runTokens fuel rest
    | .error flaw =>
      modifyProcess ({ · with line := flaw.line.getD (lineBehind rest) })
      abort 2 ("Syntax error: ".toList ++ flaw.message.toList)

end

end BuildScript.Shell
