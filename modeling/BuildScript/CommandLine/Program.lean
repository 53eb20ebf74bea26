import BuildScript.CommandLine.Options

/-!
# The program

What a command line does, as a plan that ends with the exit status of the program.
-/

namespace BuildScript

/-- Hundredths of a second, as seconds with two decimals. -/
def secondsText (hundredths : Nat) : String :=
  let whole := hundredths / 100
  let tenth := hundredths / 10 % 10
  let hundredth := hundredths % 10
  s!"{whole}.{tenth}{hundredth}"

/-- The exit status that a code amounts to: its lowest eight bits. -/
def statusOf (code : Int) : Nat := (code % 256).toNat

/-- Announces a fault; the exit status. -/
def abort (fault : Fault) : Plan Nat := do
  Plan.complain fault.report
  return 1

/-- Carries out what a command line asks for; the exit status. -/
def Options.carryOut (options : Options) : Plan Nat := do
  if options.showBanner then
    Plan.print versionBanner
    return 0
  if options.showVersion then
    Plan.print versionShort
    return 0
  match options.makefile with
  | some makefile =>
    match ← convert options.script makefile with
    | .ok _ => return 0
    | .error fault => abort fault
  | none =>
    let began ← Plan.request .stopwatch
    match ← run options.script options.targets with
    | .error fault => abort fault
    | .ok { exitCode := some code, .. } => return statusOf code
    | .ok { exitCode := none, .. } =>
      let ended ← Plan.request .stopwatch
      let seconds := secondsText (ended - began)
      Plan.print s!"Build completed in {seconds} seconds."
      return 0

/-- What a command line does; the exit status. A parser reads it, and dismisses it if it cannot. -/
def program {ε : Type} (parse : Parser Argument ε) (dismiss : ε → Plan Nat)
    (arguments : List String) : Plan Nat := do
  match Options.ofArguments parse arguments with
  | .ok options => options.carryOut
  | .error error => dismiss error

end BuildScript
