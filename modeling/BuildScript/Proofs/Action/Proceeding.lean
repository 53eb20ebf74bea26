import BuildScript.Action.OfDirective
import BuildScript.Proofs.Host.Outcomes

/-!
# Only one directive ends a script

An action that completes says whether the script goes on. The action of `exit` is the only one
that can say no (`exit_ensures`). Every other one that completes lets the script go on, whatever its
arguments are and whatever the host answers (`proceeds_action`): each is a chain of steps, and only
the last of them decides.
-/

namespace BuildScript.Action

open Script

variable {α : Type}

/-- If the action completes, the script goes on. -/
def Proceeds (x : Action Flow) : Prop :=
  ∀ s, (x.perform s).Ensures fun _ outcome => ∀ flow, outcome.1 = .ok flow → flow = .proceed

theorem Proceeds.proceed : Proceeds (pure .proceed) := by
  intro s flow completed
  cases completed
  rfl

theorem Proceeds.fail (message : String) : Proceeds (Action.fail message) := by
  intro s flow completed
  cases completed

theorem Proceeds.wrongCount (call : Call) (n : Nat) : Proceeds (Action.wrongCount call n) := by
  intro s flow completed
  cases completed

/-- What comes before the last step does not matter. -/
theorem Proceeds.after {x : Action α} {f : α → Action Flow} (last : ∀ a, Proceeds (f a)) :
    Proceeds (x >>= f) := by
  intro s
  rw [perform_bind]
  have any : (x.perform s).Ensures fun _ _ => True := .of_forall fun _ _ => trivial
  refine any.bind fun _ outcome _ => ?_
  obtain ⟨result, next⟩ := outcome
  cases result with
  | ok a => exact last a next
  | error e => exact fun flow completed => by cases completed

theorem Proceeds.ite {c : Prop} [Decidable c] {x y : Action Flow} (yes : Proceeds x)
    (no : Proceeds y) : Proceeds (if c then x else y) := by
  split
  · exact yes
  · exact no

/-- A step that is taken on a condition before the last one. -/
theorem Proceeds.optional {c : Prop} [Decidable c] {x : Action Unit} {f : Unit → Action Flow}
    (last : Proceeds (f ())) : Proceeds (if c then x >>= f else f ()) :=
  (Proceeds.after fun _ => last).ite last

/-! ## The actions of the directives -/

theorem proceeds_change (f : Settings → Settings) : Proceeds (change f) :=
  .after fun _ => .proceed

theorem proceeds_changeBy (f : Settings → String → Settings) (call : Call) :
    Proceeds (changeBy f call) := by
  unfold changeBy
  split
  · exact proceeds_change _
  · exact .wrongCount call 1

theorem proceeds_defineVariable (call : Call) : Proceeds (defineVariable call) := by
  unfold defineVariable
  split
  · exact proceeds_change _
  · exact .wrongCount call 2

theorem proceeds_remove (f : Settings → String → Bool × Settings) (missing : String → String)
    (call : Call) : Proceeds (remove f missing call) := by
  unfold remove
  split
  · refine .after fun settings => .after fun _ => ?_
    exact Proceeds.proceed.ite (.fail _)
  · exact .wrongCount call 1

theorem proceeds_listItems (title : String) (items : Settings → List String) :
    Proceeds (listItems title items) :=
  .after fun _ => .after fun _ => .after fun _ => .proceed

theorem proceeds_compile (quiet : Bool) (call : Call) : Proceeds (compile quiet call) := by
  unfold compile
  split
  · refine .after fun settings => .after fun _ => .after fun _ => .after fun result => ?_
    exact .after fun _ => .optional .proceed
  · exact .wrongCount call 2

theorem proceeds_printLine (call : Call) : Proceeds (printLine call) := by
  unfold printLine
  split
  · exact .after fun _ => .proceed
  · exact .wrongCount call 1

theorem proceeds_printErrorLine (call : Call) : Proceeds (printErrorLine call) := by
  unfold printErrorLine
  split
  · exact .after fun _ => .proceed
  · exact .wrongCount call 1

theorem proceeds_fileExists (call : Call) : Proceeds (fileExists call) := by
  unfold fileExists
  split
  · exact .after fun _ => .after fun _ => .proceed
  · exact .wrongCount call 1

theorem proceeds_listFiles (call : Call) : Proceeds (listFiles call) := by
  unfold listFiles
  split
  · exact .after fun _ => .after fun _ => .after fun _ => .proceed
  · exact .wrongCount call 1

theorem proceeds_setBuildDirectory (call : Call) : Proceeds (setBuildDirectory call) := by
  unfold setBuildDirectory
  split
  · exact .after fun _ => .after fun _ => .optional (.after fun _ => .proceed)
  · exact .wrongCount call 1

theorem proceeds_clearBuildDirectory : Proceeds clearBuildDirectory := by
  refine .after fun dir => .after fun found => ?_
  have renew : Proceeds (do
      createBuildDirectory dir
      Action.print s!"Cleared build directory {dir}"
      return .proceed) :=
    .after fun _ => .after fun _ => .proceed
  exact Proceeds.ite (.after fun _ => .after fun _ => renew) renew

theorem proceeds_backupBuildDirectory (call : Call) : Proceeds (backupBuildDirectory call) := by
  unfold backupBuildDirectory
  split
  · refine .after fun dir => .after fun _ => .after fun _ => ?_
    exact .after fun _ => .proceed
  · exact .wrongCount call 1

theorem proceeds_generateReport (call : Call) : Proceeds (generateReport call) := by
  unfold generateReport
  split
  · exact .after fun _ => .after fun _ => .after fun _ => .proceed
  · exact .wrongCount call 1

theorem proceeds_generateTimestamp : Proceeds generateTimestamp :=
  .after fun _ => .after fun _ => .after fun _ => .proceed

theorem proceeds_checkTool (call : Call) : Proceeds (checkTool call) := by
  unfold checkTool
  split
  · exact .after fun _ => .after fun _ => .proceed
  · exact .wrongCount call 1

theorem proceeds_findLibrary (call : Call) : Proceeds (findLibrary call) := by
  unfold findLibrary
  split
  · exact .after fun _ => .after fun _ => .after fun _ => .proceed
  · exact .wrongCount call 1

theorem proceeds_findFlags (call : Call) : Proceeds (findFlags call) := by
  unfold findFlags
  split
  · exact .after fun _ => .after fun _ => .proceed
  · exact .wrongCount call 1

theorem proceeds_shellCommand (call : Call) : Proceeds (shellCommand call) := by
  unfold shellCommand
  split
  · refine .after fun settings => .optional ?_
    exact .after fun _ => .optional .proceed
  · exact .wrongCount call 1

theorem proceeds_sendNotification (call : Call) : Proceeds (sendNotification call) := by
  unfold sendNotification
  split
  · exact .after fun _ => .optional .proceed
  · exact .wrongCount call 3

theorem proceeds_install (name : String) : Proceeds (install name) :=
  .after fun _ => .after fun _ => .after fun _ => .proceed

theorem proceeds_installDependency (call : Call) : Proceeds (installDependency call) := by
  unfold installDependency
  split
  · exact proceeds_install _
  · exact .wrongCount call 1

theorem proceeds_checkAndInstall (call : Call) : Proceeds (checkAndInstall call) := by
  unfold checkAndInstall
  split
  · refine .after fun found => ?_
    cases found with
    | ok path => exact .after fun _ => .proceed
    | error fault => exact proceeds_install _
  · exact .wrongCount call 1

theorem proceeds_convertToMake (script : Path) : Proceeds (convertToMake script) :=
  .after fun _ => .proceed

/-- The script goes on after every directive that completes, other than `exit`. -/
theorem proceeds_action (script : Path) (call : Call) {d : Directive} (other : d ≠ .exit) :
    Proceeds (d.action script call) := by
  cases d with
  | exit => exact absurd rfl other
  | defineVariable => exact proceeds_defineVariable call
  | removeVariable => exact proceeds_remove Settings.removeVariable _ call
  | listDefinedVariables => exact proceeds_listItems _ _
  | defineLibrary => exact proceeds_changeBy _ call
  | defineInclude => exact proceeds_changeBy _ call
  | defineLibraryPath => exact proceeds_changeBy _ call
  | printLibraries => exact proceeds_listItems _ _
  | addFlag => exact proceeds_changeBy _ call
  | removeFlag => exact proceeds_remove Settings.removeFlag _ call
  | printFlags => exact proceeds_listItems _ _
  | addMemorySanitizer => exact proceeds_change _
  | addCompilerWarnings => exact proceeds_change _
  | enableVerbose => exact proceeds_change _
  | winCompiler => exact proceeds_change _
  | resetSettings => exact proceeds_change _
  | compile => exact proceeds_compile false call
  | compileSilently => exact proceeds_compile true call
  | printLine => exact proceeds_printLine call
  | printErrorLine => exact proceeds_printErrorLine call
  | fileExists => exact proceeds_fileExists call
  | setBuildDirectory => exact proceeds_setBuildDirectory call
  | clearBuildDirectory => exact proceeds_clearBuildDirectory
  | backupBuildDirectory => exact proceeds_backupBuildDirectory call
  | listFilesInDirectory => exact proceeds_listFiles call
  | generateBuildReport => exact proceeds_generateReport call
  | generateTimestamp => exact proceeds_generateTimestamp
  | checkTool => exact proceeds_checkTool call
  | findLibrary => exact proceeds_findLibrary call
  | findFlags => exact proceeds_findFlags call
  | shellCommand => exact proceeds_shellCommand call
  | sendNotification => exact proceeds_sendNotification call
  | installDependency => exact proceeds_installDependency call
  | checkAndInstallDependency => exact proceeds_checkAndInstall call
  | convertToMake => exact proceeds_convertToMake script

/-! ## The end of a script -/

/-- A call of `exit` ends the script with the code of its one argument; with more or fewer it
fails. -/
theorem exit_ensures (call : Call) (s : Settings) :
    ((exit call).perform s).Ensures fun _ outcome => ∀ flow, outcome.1 = .ok flow ↔
      ∃ text, call.args = [text] ∧ flow = .exit (ExitCode.ofString text) := by
  obtain ⟨name, args⟩ := call
  match args with
  | [] => exact fun flow => by simp
  | [text] => exact fun flow => by simp [eq_comm]
  | first :: second :: rest => exact fun flow => by simp

end BuildScript.Action
