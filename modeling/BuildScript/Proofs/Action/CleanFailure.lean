import BuildScript.Action.OfDirective
import BuildScript.Proofs.Host.Outcomes

/-!
# Actions fail cleanly

An action may change the settings and it may fail, but not both: settings change only after the
last request that can fail. Three properties of actions say so, each closed under what actions are
made of:

* `Keeps`: the settings are never changed, and the only failure is to give up;
* `Completes`: there is no failure;
* `FailsCleanly`: an action that keeps settings, followed by one that completes, or any other that
  gives up only with the settings it began with.

Most directives never change the settings (`inert_action`). `tidy_action` is the result for every
directive: a call with the wrong number of arguments is refused before anything else happens, and
every other failure gives up cleanly.
-/

namespace BuildScript

namespace Action

open Script

variable {α β : Type}

/-- The action leaves the settings alone, and fails only by giving up. -/
def Keeps (x : Action α) : Prop :=
  ∀ s, (x.perform s).Ensures fun _ outcome =>
    outcome.2 = s ∧ ∀ e, outcome.1 = .error e → ∃ message, e = .failed message

/-- The action never fails. -/
def Completes (x : Action α) : Prop :=
  ∀ s, (x.perform s).Ensures fun _ outcome => ∃ a, outcome.1 = .ok a

/-- The action fails only by giving up, and then the settings are what they were. -/
def FailsCleanly (x : Action α) : Prop :=
  ∀ s, (x.perform s).Ensures fun _ outcome =>
    ∀ e, outcome.1 = .error e → outcome.2 = s ∧ ∃ message, e = .failed message

/-! ## Actions that keep the settings -/

theorem Keeps.pure (a : α) : Keeps (Pure.pure a) := by
  intro s
  exact ⟨rfl, fun e failed => by cases failed⟩

theorem Keeps.fail (message : String) : Keeps (Action.fail message : Action α) := by
  intro s
  refine ⟨rfl, fun e failed => ?_⟩
  cases failed
  exact ⟨message, rfl⟩

theorem Keeps.get : Keeps (get : Action Settings) := by
  intro s
  exact ⟨rfl, fun e failed => by cases failed⟩

theorem Keeps.ofPlan (p : Plan α) : Keeps (liftM p : Action α) := by
  intro s
  rw [perform_liftM]
  have any : p.Ensures fun _ _ => True := .of_forall fun _ _ => trivial
  exact any.bind fun _ a _ => ⟨rfl, fun e failed => by cases failed⟩

theorem Keeps.print (text : String) : Keeps (Action.print text) := .ofPlan (Plan.print text)

theorem Keeps.complain (text : String) : Keeps (Action.complain text) :=
  .ofPlan (Plan.complain text)

theorem Keeps.note (level : Level) (text : String) : Keeps (Action.note level text) :=
  .ofPlan (Plan.note level text)

/-- A service of the host that fails makes the action give up. -/
theorem Keeps.attempt (context : String) (p : Plan (Except Fault α)) :
    Keeps (Action.attempt context p) := by
  intro s
  rw [perform_attempt]
  have any : p.Ensures fun _ _ => True := .of_forall fun _ _ => trivial
  refine any.bind fun _ outcome _ => ⟨rfl, fun e failed => ?_⟩
  cases outcome with
  | ok a => cases failed
  | error fault =>
      cases failed
      exact ⟨s!"{context}: {fault.message}", rfl⟩

theorem Keeps.bind {x : Action α} {f : α → Action β} (first : Keeps x)
    (second : ∀ a, Keeps (f a)) : Keeps (x >>= f) := by
  intro s
  rw [perform_bind]
  refine (first s).bind fun _ outcome kept => ?_
  obtain ⟨result, next⟩ := outcome
  obtain ⟨rfl, gaveUp⟩ := kept
  cases result with
  | ok a => exact second a next
  | error e => exact ⟨rfl, fun e' failed => by cases failed; exact gaveUp e rfl⟩

theorem Keeps.ite {c : Prop} [Decidable c] {x y : Action α} (yes : Keeps x) (no : Keeps y) :
    Keeps (if c then x else y) := by
  split
  · exact yes
  · exact no

/-- A step that is taken on a condition, and what follows it in either case. -/
theorem Keeps.optional {c : Prop} [Decidable c] {x : Action Unit} {f : Unit → Action β}
    (step : Keeps x) (rest : Keeps (f ())) : Keeps (if c then x >>= f else f ()) :=
  (step.bind fun _ => rest).ite rest

theorem Keeps.printAll (texts : List String) : Keeps (Action.printAll texts) := by
  induction texts with
  | nil => exact .pure ()
  | cons text rest ih => exact (Keeps.print text).bind fun _ => ih

/-! ## Actions that complete -/

theorem Completes.pure (a : α) : Completes (Pure.pure a) := by
  intro s
  exact ⟨a, rfl⟩

theorem Completes.modify (f : Settings → Settings) : Completes (modify f : Action PUnit) := by
  intro s
  exact ⟨(), rfl⟩

theorem Completes.print (text : String) : Completes (Action.print text) := by
  intro s _
  exact ⟨(), rfl⟩

theorem Completes.bind {x : Action α} {f : α → Action β} (first : Completes x)
    (second : ∀ a, Completes (f a)) : Completes (x >>= f) := by
  intro s
  rw [perform_bind]
  refine (first s).bind fun _ outcome completed => ?_
  obtain ⟨result, next⟩ := outcome
  obtain ⟨a, rfl⟩ := completed
  exact second a next

theorem Completes.optional {c : Prop} [Decidable c] {x : Action Unit} {f : Unit → Action β}
    (step : Completes x) (rest : Completes (f ())) : Completes (if c then x >>= f else f ()) := by
  split
  · exact step.bind fun _ => rest
  · exact rest

/-! ## Actions that fail cleanly -/

theorem Keeps.failsCleanly {x : Action α} (kept : Keeps x) : FailsCleanly x := by
  intro s
  exact (kept s).mono fun _ _ ⟨same, gaveUp⟩ e failed => ⟨same, gaveUp e failed⟩

theorem Completes.failsCleanly {x : Action α} (completed : Completes x) : FailsCleanly x := by
  intro s
  refine (completed s).mono fun _ outcome done e failed => ?_
  obtain ⟨a, ok⟩ := done
  rw [ok] at failed
  cases failed

/-- What runs before the first change may fail as it likes. -/
theorem Keeps.andThen {x : Action α} {f : α → Action β} (first : Keeps x)
    (second : ∀ a, FailsCleanly (f a)) : FailsCleanly (x >>= f) := by
  intro s
  rw [perform_bind]
  refine (first s).bind fun _ outcome kept => ?_
  obtain ⟨result, next⟩ := outcome
  obtain ⟨rfl, gaveUp⟩ := kept
  cases result with
  | ok a => exact second a next
  | error e =>
      intro e' failed
      cases failed
      exact ⟨rfl, gaveUp e rfl⟩

/-! ## Tidy actions -/

/-- Every failure finds the settings as they were, and one that is not giving up comes before the
first request. -/
def Tidy (x : Action α) : Prop :=
  ∀ s, (x.perform s).Ensures fun trace outcome =>
    ∀ e, outcome.1 = .error e →
      outcome.2 = s ∧ ((∃ message, e = .failed message) ∨ calls trace = [])

theorem Tidy.wrongCount (call : Call) (n : Nat) : Tidy (Action.wrongCount call n : Action α) := by
  intro s e _
  exact ⟨rfl, .inr rfl⟩

theorem FailsCleanly.tidy {x : Action α} (clean : FailsCleanly x) : Tidy x := by
  intro s
  refine (clean s).mono fun _ _ cleanly e failed => ?_
  obtain ⟨same, gaveUp⟩ := cleanly e failed
  exact ⟨same, .inl gaveUp⟩

/-- The action leaves the settings alone, or it refuses the call for the number of its arguments. -/
inductive Inert : Action α → Prop where
  | keeps {x : Action α} (kept : Keeps x) : Inert x
  | refuses (call : Call) (n : Nat) : Inert (Action.wrongCount call n)

theorem Inert.settings {x : Action α} (inert : Inert x) (s : Settings) :
    (x.perform s).Ensures fun _ outcome => outcome.2 = s := by
  cases inert with
  | keeps kept => exact (kept s).mono fun _ _ kept => kept.1
  | refuses call n => rfl

theorem Inert.tidy {x : Action α} (inert : Inert x) : Tidy x := by
  cases inert with
  | keeps kept => exact kept.failsCleanly.tidy
  | refuses call n => exact .wrongCount call n

/-! ## The actions of the directives -/

theorem Completes.change (f : Settings → Settings) : Completes (Action.change f) :=
  (Completes.modify f).bind fun _ => .pure Flow.proceed

theorem tidy_changeBy (f : Settings → String → Settings) (call : Call) :
    Tidy (changeBy f call) := by
  unfold changeBy
  split
  · exact (Completes.change _).failsCleanly.tidy
  · exact .wrongCount call 1

theorem tidy_defineVariable (call : Call) : Tidy (defineVariable call) := by
  unfold defineVariable
  split
  · exact (Completes.change _).failsCleanly.tidy
  · exact .wrongCount call 2

/-- A removal that finds nothing must not have changed anything either. -/
theorem tidy_remove {f : Settings → String → Bool × Settings} (missing : String → String)
    (nothing : ∀ s name, (f s name).1 = false → (f s name).2 = s) (call : Call) :
    Tidy (remove f missing call) := by
  unfold remove
  split
  · rename_i name _
    -- The settings are set before the outcome is looked at, so `Keeps` does not apply.
    refine FailsCleanly.tidy fun s => ?_
    rw [perform_bind, perform_get, Plan.done_bind, resume_ok]
    dsimp only
    rw [perform_bind, perform_set, Plan.done_bind, resume_ok]
    cases found : (f s name).1 with
    | true => exact fun e failed => by cases failed
    | false =>
        intro e failed
        cases failed
        exact ⟨nothing s name found, missing name, rfl⟩
  · exact .wrongCount call 1

theorem keeps_listItems (title : String) (items : Settings → List String) :
    Keeps (listItems title items) :=
  (Keeps.print title).bind fun _ => Keeps.get.bind fun _ =>
    (Keeps.printAll _).bind fun _ => .pure Flow.proceed

theorem keeps_showCompletion (quiet : Bool) (result : Completion) :
    Keeps (showCompletion quiet result) := by
  unfold showCompletion
  exact (Keeps.print _).optional ((Keeps.complain _).ite (.pure ()))

theorem inert_compile (quiet : Bool) (call : Call) : Inert (compile quiet call) := by
  unfold compile
  split
  · refine .keeps (Keeps.get.bind fun settings => ?_)
    refine (Keeps.printAll _).bind fun _ => (Keeps.note _ _).bind fun _ => ?_
    refine (Keeps.attempt _ _).bind fun result => (keeps_showCompletion _ _).bind fun _ => ?_
    exact (Keeps.fail _).optional (.pure Flow.proceed)
  · exact .refuses call 2

theorem inert_printLine (call : Call) : Inert (printLine call) := by
  unfold printLine
  split
  · exact .keeps ((Keeps.print _).bind fun _ => .pure _)
  · exact .refuses call 1

theorem inert_printErrorLine (call : Call) : Inert (printErrorLine call) := by
  unfold printErrorLine
  split
  · exact .keeps ((Keeps.complain _).bind fun _ => .pure _)
  · exact .refuses call 1

theorem inert_exit (call : Call) : Inert (exit call) := by
  unfold exit
  split
  · exact .keeps (Keeps.pure _)
  · exact .refuses call 1

theorem inert_fileExists (call : Call) : Inert (fileExists call) := by
  unfold fileExists
  split
  · refine .keeps ((Keeps.attempt _ _).bind fun found => ?_)
    exact (Keeps.print _).bind fun _ => .pure _
  · exact .refuses call 1

theorem inert_listFiles (call : Call) : Inert (listFiles call) := by
  unfold listFiles
  split
  · refine .keeps ((Keeps.attempt _ _).bind fun names => ?_)
    exact (Keeps.print _).bind fun _ => (Keeps.printAll _).bind fun _ => .pure _
  · exact .refuses call 1

/-- The build directory changes only after the host has created it. -/
theorem tidy_setBuildDirectory (call : Call) : Tidy (setBuildDirectory call) := by
  unfold setBuildDirectory
  split
  · refine (Keeps.andThen (Keeps.attempt _ _) fun _ => ?_).tidy
    refine Keeps.andThen Keeps.get fun settings => Completes.failsCleanly ?_
    exact (Completes.print _).optional ((Completes.modify _).bind fun _ => .pure Flow.proceed)
  · exact .wrongCount call 1

theorem keeps_buildDirectory : Keeps buildDirectory := by
  refine Keeps.get.bind fun settings => ?_
  cases settings.buildDir with
  | none => exact .fail _
  | some dir => exact .pure dir

theorem keeps_ensureDirectory (dir : Path) : Keeps (ensureDirectory dir) :=
  (Keeps.attempt _ _).bind fun _ => (Keeps.pure ()).ite (.fail _)

theorem keeps_clearBuildDirectory : Keeps clearBuildDirectory := by
  refine keeps_buildDirectory.bind fun dir => (Keeps.attempt _ _).bind fun found => ?_
  have renew : Keeps (do
      createBuildDirectory dir
      Action.print s!"Cleared build directory {dir}"
      Pure.pure Flow.proceed) :=
    (Keeps.attempt _ _).bind fun _ => (Keeps.print _).bind fun _ => .pure _
  refine Keeps.ite ?_ renew
  exact (keeps_ensureDirectory dir).bind fun _ => (Keeps.attempt _ _).bind fun _ => renew

theorem inert_backupBuildDirectory (call : Call) : Inert (backupBuildDirectory call) := by
  unfold backupBuildDirectory
  split
  · refine .keeps (keeps_buildDirectory.bind fun dir => ?_)
    refine (keeps_ensureDirectory dir).bind fun _ => (Keeps.attempt _ _).bind fun _ => ?_
    exact (Keeps.print _).bind fun _ => .pure _
  · exact .refuses call 1

theorem inert_generateReport (call : Call) : Inert (generateReport call) := by
  unfold generateReport
  split
  · refine .keeps (Keeps.get.bind fun settings => ?_)
    exact (Keeps.attempt _ _).bind fun _ => (Keeps.print _).bind fun _ => .pure _
  · exact .refuses call 1

theorem keeps_generateTimestamp : Keeps generateTimestamp :=
  Keeps.get.bind fun _ => (Keeps.ofPlan _).bind fun _ => (Keeps.attempt _ _).bind fun _ => .pure _

theorem inert_checkTool (call : Call) : Inert (checkTool call) := by
  unfold checkTool
  split
  · refine .keeps ((Keeps.attempt _ _).bind fun path => ?_)
    exact (Keeps.print _).bind fun _ => .pure _
  · exact .refuses call 1

theorem keeps_packageArguments (query package : String) : Keeps (packageArguments query package) :=
  (Keeps.attempt _ _).bind fun result => (Keeps.fail _).optional (.pure (Text.words result.output))

/-- All words of the package database are taken over, or none. -/
theorem tidy_findLibrary (call : Call) : Tidy (findLibrary call) := by
  unfold findLibrary
  split
  · refine (Keeps.andThen (keeps_packageArguments _ _) fun flags => ?_).tidy
    refine Completes.failsCleanly ((Completes.modify _).bind fun _ => ?_)
    exact (Completes.print _).bind fun _ => .pure _
  · exact .wrongCount call 1

theorem tidy_findFlags (call : Call) : Tidy (findFlags call) := by
  unfold findFlags
  split
  · refine (Keeps.andThen (keeps_packageArguments _ _) fun flags => ?_).tidy
    exact ((Completes.modify _).bind fun _ => .pure _).failsCleanly
  · exact .wrongCount call 1

theorem inert_shellCommand (call : Call) : Inert (shellCommand call) := by
  unfold shellCommand
  split
  · refine .keeps (Keeps.get.bind fun settings => (Keeps.print _).optional ?_)
    refine (Keeps.attempt _ _).bind fun status => ?_
    exact (Keeps.fail _).optional (.pure Flow.proceed)
  · exact .refuses call 1

theorem inert_sendNotification (call : Call) : Inert (sendNotification call) := by
  unfold sendNotification
  split
  · refine .keeps ((Keeps.attempt _ _).bind fun result => ?_)
    exact (Keeps.fail _).optional (.pure Flow.proceed)
  · exact .refuses call 3

theorem keeps_install (name : String) : Keeps (install name) :=
  (Keeps.print _).bind fun _ => (Keeps.attempt _ _).bind fun _ => (Keeps.print _).bind fun _ =>
    .pure Flow.proceed

theorem inert_installDependency (call : Call) : Inert (installDependency call) := by
  unfold installDependency
  split
  · exact .keeps (keeps_install _)
  · exact .refuses call 1

theorem inert_checkAndInstall (call : Call) : Inert (checkAndInstall call) := by
  unfold checkAndInstall
  split
  · refine .keeps ((Keeps.ofPlan _).bind fun found => ?_)
    cases found with
    | ok path => exact (Keeps.print _).bind fun _ => .pure _
    | error fault => exact keeps_install _
  · exact .refuses call 1

theorem keeps_convertToMake (script : Path) : Keeps (convertToMake script) :=
  (Keeps.attempt _ _).bind fun _ => .pure Flow.proceed

end Action

/-! ## Every directive -/

/-- Whether a call of the directive may change the settings. -/
def Directive.configures : Directive → Bool
  | .defineVariable | .removeVariable | .defineLibrary | .defineInclude | .defineLibraryPath
  | .addFlag | .removeFlag | .addMemorySanitizer | .addCompilerWarnings | .enableVerbose
  | .winCompiler | .resetSettings | .setBuildDirectory | .findLibrary | .findFlags => true
  | _ => false

namespace Action

open Script

theorem removeVariable_absent (s : Settings) (name : String)
    (absent : (s.removeVariable name).1 = false) : (s.removeVariable name).2 = s := by
  have same : s.definitions.erase name = s.definitions := by
    refine s.definitions.erase_of_not_mem ?_
    rwa [← Settings.removeVariable_fst, Bool.not_eq_true]
  simp only [Settings.removeVariable, same]

theorem removeFlag_absent (s : Settings) (flag : String)
    (absent : (s.removeFlag flag).1 = false) : (s.removeFlag flag).2 = s := by
  have missing : flag ∉ s.flags := by rwa [← Settings.removeFlag_fst, Bool.not_eq_true]
  have same : s.flags.filter (· != flag) = s.flags := by
    refine List.filter_eq_self.mpr fun other member => ?_
    have different : other ≠ flag := fun equal => missing (equal ▸ member)
    simpa using different
  simp only [Settings.removeFlag, same]

/-- A directive that does not configure leaves the settings alone. -/
theorem inert_action (script : Path) (call : Call) {d : Directive} (aside : d.configures = false) :
    Inert (d.action script call) := by
  cases d with
  | listDefinedVariables => exact .keeps (keeps_listItems _ _)
  | printLibraries => exact .keeps (keeps_listItems _ _)
  | printFlags => exact .keeps (keeps_listItems _ _)
  | compile => exact inert_compile false call
  | compileSilently => exact inert_compile true call
  | printLine => exact inert_printLine call
  | printErrorLine => exact inert_printErrorLine call
  | exit => exact inert_exit call
  | fileExists => exact inert_fileExists call
  | clearBuildDirectory => exact .keeps keeps_clearBuildDirectory
  | backupBuildDirectory => exact inert_backupBuildDirectory call
  | listFilesInDirectory => exact inert_listFiles call
  | generateBuildReport => exact inert_generateReport call
  | generateTimestamp => exact .keeps keeps_generateTimestamp
  | checkTool => exact inert_checkTool call
  | shellCommand => exact inert_shellCommand call
  | sendNotification => exact inert_sendNotification call
  | installDependency => exact inert_installDependency call
  | checkAndInstallDependency => exact inert_checkAndInstall call
  | convertToMake => exact .keeps (keeps_convertToMake script)
  | _ => cases aside

theorem tidy_action (script : Path) (call : Call) (d : Directive) :
    Tidy (d.action script call) := by
  cases d with
  | defineVariable => exact tidy_defineVariable call
  | removeVariable => exact tidy_remove _ removeVariable_absent call
  | defineLibrary => exact tidy_changeBy _ call
  | defineInclude => exact tidy_changeBy _ call
  | defineLibraryPath => exact tidy_changeBy _ call
  | addFlag => exact tidy_changeBy _ call
  | removeFlag => exact tidy_remove _ removeFlag_absent call
  | addMemorySanitizer => exact (Completes.change _).failsCleanly.tidy
  | addCompilerWarnings => exact (Completes.change _).failsCleanly.tidy
  | enableVerbose => exact (Completes.change _).failsCleanly.tidy
  | winCompiler => exact (Completes.change _).failsCleanly.tidy
  | resetSettings => exact (Completes.change _).failsCleanly.tidy
  | setBuildDirectory => exact tidy_setBuildDirectory call
  | findLibrary => exact tidy_findLibrary call
  | findFlags => exact tidy_findFlags call
  | _ => exact (inert_action script call rfl).tidy

end Action

end BuildScript
