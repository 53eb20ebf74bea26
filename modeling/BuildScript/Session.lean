import BuildScript.Action.OfDirective
import BuildScript.Script.Source
import BuildScript.Selection
import BuildScript.Text.Quoted
import BuildScript.Vocabulary

/-!
# Sessions

A session runs scripts. It keeps the settings, the place in the script's segments and the
vocabulary from one script to the next. Lines are taken in order; a line that fails is reported
with its number and the run goes on; only the directive `exit` stops a run early. Outside the
requested targets calls are skipped and malformed lines are passed over in silence.
-/

namespace BuildScript

open Script

/-- What a session holds between two lines. -/
structure Session where
  settings : Settings
  /-- The script that is being run. -/
  script : Path
  selection : Selection
  vocabulary : Vocabulary
  deriving DecidableEq, Repr

/-- What became of the lines of a run. -/
structure Summary where
  /-- Calls that completed. -/
  executed : Nat
  /-- Calls outside the requested targets. -/
  skipped : Nat
  /-- Lines that were reported. -/
  failed : Nat
  /-- The code, if the directive `exit` stopped the run. -/
  exitCode : Option Int
  deriving DecidableEq, Repr

/-- The summary of no lines. -/
def Summary.empty : Summary := ⟨0, 0, 0, none⟩

/-- What became of one line. -/
inductive Verdict where
  | executed
  | skipped
  | failed
  | exited (code : Int)
  /-- The line asks for nothing. -/
  | quiet
  deriving DecidableEq, Repr

/-- The summary with one more line. -/
def Summary.count (s : Summary) : Verdict → Summary
  | .executed => { s with executed := s.executed + 1 }
  | .skipped => { s with skipped := s.skipped + 1 }
  | .failed => { s with failed := s.failed + 1 }
  | .exited code => { s with executed := s.executed + 1, exitCode := some code }
  | .quiet => s

namespace Session

/-- A session with initial settings and the standard vocabulary. -/
def start (script : Path) (selection : Selection) : Session :=
  ⟨.initial, script, selection, .standard⟩

/-- Binds a name to a directive. -/
def register (s : Session) (name : String) (arity : Nat) (directive : Directive) : Session :=
  { s with vocabulary := (s.vocabulary.register name arity directive).2 }

/-- Carries out the action of a directive. -/
def act (s : Session) (directive : Directive) (call : Call) :
    Plan (Except CallError Flow × Session) := do
  let shown := Text.quotedList call.args
  Plan.note .debug s!"{call.name}({shown})"
  let (result, settings) ← (directive.action s.script call).perform s.settings
  return (result, { s with settings })

/-- Carries out a call: its name must be bound, and the number of its arguments must fit. -/
def dispatch (s : Session) (call : Call) : Plan (Except CallError Flow × Session) :=
  match s.vocabulary.get? call.name with
  | none => return (.error (.unknown call.name), s)
  | some binding =>
    if call.args.length = binding.arity then s.act binding.directive call
    else return (.error (.arity (call.mismatch binding.arity)), s)

/-- Reports the error of a numbered line. -/
def report (s : Session) (number : Nat) (message : String) : Plan Unit := do
  Plan.note .debug s!"{s.script}:{number}: {message}"
  Plan.complain s!"line {number}: {message}"

/-- What becomes of a call that was dispatched on a numbered line. -/
def settle (s : Session) (number : Nat) : Except CallError Flow → Plan Verdict
  | .ok .proceed => return .executed
  | .ok (.exit code) => do
    Plan.note .info s!"{s.script}:{number}: exit({code})"
    return .exited code
  | .error error => do
    s.report number error.message
    return .failed

/-- Takes one numbered line, after the session has observed it. -/
def takeLine (s : Session) (number : Nat) : Line → Plan (Verdict × Session)
  | .call call =>
    if s.selection.isActive then do
      let (result, s) ← s.dispatch call
      return (← s.settle number result, s)
    else do
      Plan.note .trace
        s!"{s.script}:{number}: skipping '{call.name}' outside the requested targets"
      return (.skipped, s)
  | .malformed error =>
    if s.selection.isActive then do
      s.report number error.message
      return (.failed, s)
    else return (.quiet, s)
  | .label name => do
    Plan.note .debug s!"{s.script}:{number}: entering target '{name}'"
    return (.quiet, s)
  | .blank | .comment => return (.quiet, s)

/-- The session after it has seen a line. -/
def observe (s : Session) (line : Line) : Session :=
  { s with selection := s.selection.observe line }

/-- Takes numbered lines, up to the one that exits. -/
def takeLines (s : Session) (summary : Summary) : List (Nat × Line) → Plan (Summary × Session)
  | [] => return (summary, s)
  | (number, line) :: rest => do
    let (verdict, s) ← (s.observe line).takeLine number line
    match verdict with
    | .exited code => return (summary.count (.exited code), s)
    | verdict => s.takeLines (summary.count verdict) rest

/-- Runs a script that is given as text. -/
def runSource (s : Session) (source : String) : Plan (Summary × Session) := do
  let (summary, s) ← s.takeLines .empty (parse source)
  Plan.note .info
    s!"{s.script}: {summary.executed} executed, {summary.skipped} skipped, {summary.failed} failed"
  return (summary, s)

/-- Runs the session's script file; only a file that cannot be used is an error. -/
def runFile (s : Session) : Plan (Except Fault Summary × Session) := do
  match ← readSource s.script with
  | .error fault => return (.error fault, s)
  | .ok source =>
    let shown := Text.quotedList s.selection.requested
    Plan.note .info s!"Running {s.script} for target(s) {shown}"
    let (summary, s) ← s.runSource source
    return (.ok summary, s)

end Session

end BuildScript
