import BuildScript.Action.OfDirective
import BuildScript.Proofs.Host.Tandem

/-!
# What the verbose switch is for

Verbose settings make some actions print more, and that is all. `PrintsApart x y` says that two
actions, performed with settings that differ at most in the verbose switch, do the same except for
what they print: the other requests, the result, and the settings afterwards but for the switch.
It is closed under what actions are made of. Two lists of lines may stand in the same place
(`PrintsApart.printAll`), and so may two lines with a condition each (`PrintsApart.announce`).

`apart_action` is the result for the directives. Only the build report is not such an action, since
it writes the switch into a file.
-/

namespace BuildScript

/-- The settings differ at most in the verbose switch. -/
def Settings.SameButVerbose (s s' : Settings) : Prop := ∃ verbose, s' = s.setVerbose verbose

theorem Settings.SameButVerbose.refl (s : Settings) : s.SameButVerbose s := ⟨s.verbose, rfl⟩

namespace Action

open Script

variable {α β : Type}

/-- With settings that differ at most in the verbose switch, the actions do the same except for what
they print. -/
def PrintsApart (x y : Action α) : Prop :=
  ∀ s s', s.SameButVerbose s' →
    (x.perform s).Tandem (y.perform s') fun t outcome t' outcome' =>
      unprinted t' = unprinted t ∧ outcome'.1 = outcome.1 ∧ outcome.2.SameButVerbose outcome'.2

/-! ## What actions are made of -/

theorem PrintsApart.pure (a : α) : PrintsApart (Pure.pure a) (Pure.pure a) :=
  fun _ _ same => .done ⟨rfl, rfl, same⟩

theorem PrintsApart.fail (message : String) :
    PrintsApart (Action.fail message : Action α) (Action.fail message) :=
  fun _ _ same => .done ⟨rfl, rfl, same⟩

theorem PrintsApart.wrongCount (call : Call) (n : Nat) :
    PrintsApart (Action.wrongCount call n : Action α) (Action.wrongCount call n) :=
  fun _ _ same => .done ⟨rfl, rfl, same⟩

theorem PrintsApart.set {next next' : Settings} (same : next.SameButVerbose next') :
    PrintsApart (set next : Action PUnit) (set next') :=
  fun _ _ _ => .done ⟨rfl, rfl, same⟩

/-- A change of the settings that does not depend on the verbose switch, which it may set. -/
theorem PrintsApart.modify {f : Settings → Settings}
    (blind : ∀ s verbose, (f s).SameButVerbose (f (s.setVerbose verbose))) :
    PrintsApart (modify f : Action PUnit) (modify f) := by
  rintro s _ ⟨verbose, rfl⟩
  exact .done ⟨rfl, rfl, blind s verbose⟩

theorem PrintsApart.ofPlan (p : Plan α) : PrintsApart (liftM p : Action α) (liftM p) := by
  intro s s' same
  rw [perform_liftM, perform_liftM]
  have together : p.Tandem p fun t a t' b => t' = t ∧ b = a := .refl p fun _ _ => ⟨rfl, rfl⟩
  refine together.bind ?_
  rintro t a _ _ ⟨rfl, rfl⟩
  exact .done ⟨rfl, rfl, same⟩

theorem PrintsApart.bind {x y : Action α} {f g : α → Action β} (first : PrintsApart x y)
    (second : ∀ a, PrintsApart (f a) (g a)) : PrintsApart (x >>= f) (y >>= g) := by
  intro s s' same
  rw [perform_bind, perform_bind]
  refine (first s s' same).bind ?_
  rintro t ⟨_, next⟩ t' ⟨result, next'⟩ ⟨quiet, rfl, kept⟩
  cases result with
  | error e => exact .done ⟨by rw [List.append_nil, List.append_nil, quiet], rfl, kept⟩
  | ok a =>
      refine (second a next next' kept).mono fun u _ u' _ later => ⟨?_, later.2⟩
      rw [unprinted_append, unprinted_append, quiet, later.1]

theorem PrintsApart.complain (text : String) :
    PrintsApart (Action.complain text) (Action.complain text) := .ofPlan (Plan.complain text)

theorem PrintsApart.note (level : Level) (text : String) :
    PrintsApart (Action.note level text) (Action.note level text) := .ofPlan (Plan.note level text)

theorem PrintsApart.print (text : String) : PrintsApart (Action.print text) (Action.print text) :=
  .ofPlan (Plan.print text)

/-- What an action does with the reply to a request does not depend on the switch. -/
theorem PrintsApart.attempt (context : String) (p : Plan (Except Fault α)) :
    PrintsApart (Action.attempt context p) (Action.attempt context p) := by
  refine (PrintsApart.ofPlan p).bind fun outcome => ?_
  cases outcome with
  | ok a => exact .pure a
  | error fault => exact .fail _

/-- Two actions that look at the settings see the same but for the switch. -/
theorem PrintsApart.get {f g : Settings → Action β}
    (rest : ∀ s verbose, PrintsApart (f s) (g (s.setVerbose verbose))) :
    PrintsApart (get >>= f) (get >>= g) := by
  rintro s _ ⟨verbose, rfl⟩
  rw [perform_bind, perform_bind]
  exact rest s verbose _ _ ⟨verbose, rfl⟩

theorem PrintsApart.printLeft (text : String) {f : Unit → Action α} {y : Action α}
    (rest : PrintsApart (f ()) y) : PrintsApart (Action.print text >>= f) y := by
  intro s s' same
  rw [perform_bind]
  exact .showLeft rfl fun _ => rest s s' same

theorem PrintsApart.printRight (text : String) {x : Action α} {g : Unit → Action α}
    (rest : PrintsApart x (g ())) : PrintsApart x (Action.print text >>= g) := by
  intro s s' same
  rw [perform_bind]
  exact .showRight rfl fun _ => rest s s' same

/-- What is printed depends on the switch, and whether it is printed. -/
theorem PrintsApart.announce {c c' : Prop} [Decidable c] [Decidable c'] {text text' : String}
    {f g : Unit → Action α} (rest : PrintsApart (f ()) (g ())) :
    PrintsApart (if c then Action.print text >>= f else f ())
      (if c' then Action.print text' >>= g else g ()) := by
  split
  · split
    · exact .printLeft text (.printRight text' rest)
    · exact .printLeft text rest
  · split
    · exact .printRight text' rest
    · exact rest

theorem PrintsApart.printAll (texts texts' : List String) :
    PrintsApart (Action.printAll texts) (Action.printAll texts') := by
  induction texts with
  | nil =>
      induction texts' with
      | nil => exact .pure ()
      | cons text' rest' ih => exact .printRight text' ih
  | cons text rest ih => exact .printLeft text ih

theorem PrintsApart.ite {c : Prop} [Decidable c] {x y x' y' : Action α} (yes : PrintsApart x x')
    (no : PrintsApart y y') : PrintsApart (if c then x else y) (if c then x' else y') := by
  split
  · exact yes
  · exact no

/-- A step that is taken on a condition, and what follows it in either case. -/
theorem PrintsApart.optional {c : Prop} [Decidable c] {x y : Action Unit} {f g : Unit → Action β}
    (step : PrintsApart x y) (rest : PrintsApart (f ()) (g ())) :
    PrintsApart (if c then x >>= f else f ()) (if c then y >>= g else g ()) :=
  (step.bind fun _ => rest).ite rest

/-! ## Settings -/

theorem PrintsApart.change {f : Settings → Settings}
    (blind : ∀ s verbose, (f s).SameButVerbose (f (s.setVerbose verbose))) :
    PrintsApart (Action.change f) (Action.change f) :=
  (PrintsApart.modify blind).bind fun _ => .pure Flow.proceed

theorem apart_changeBy {f : Settings → String → Settings}
    (blind : ∀ s text verbose, (f s text).SameButVerbose (f (s.setVerbose verbose) text))
    (call : Call) : PrintsApart (changeBy f call) (changeBy f call) := by
  unfold changeBy
  split
  · exact .change fun s verbose => blind s _ verbose
  · exact .wrongCount call 1

theorem apart_defineVariable (call : Call) :
    PrintsApart (defineVariable call) (defineVariable call) := by
  unfold defineVariable
  split
  · exact .change fun _ verbose => ⟨verbose, rfl⟩
  · exact .wrongCount call 2

theorem apart_remove (f : Settings → String → Bool × Settings) (missing : String → String)
    (blind : ∀ s name verbose, (f (s.setVerbose verbose) name).1 = (f s name).1 ∧
      (f s name).2.SameButVerbose (f (s.setVerbose verbose) name).2) (call : Call) :
    PrintsApart (remove f missing call) (remove f missing call) := by
  unfold remove
  split
  · rename_i name _
    refine .get fun s verbose => ?_
    obtain ⟨found, same⟩ := blind s name verbose
    refine (PrintsApart.set same).bind fun _ => ?_
    rw [found]
    exact (PrintsApart.pure _).ite (.fail _)
  · exact .wrongCount call 1

theorem apart_listItems (title : String) (items : Settings → List String) :
    PrintsApart (listItems title items) (listItems title items) :=
  (PrintsApart.print title).bind fun _ => .get fun _ _ =>
    (PrintsApart.printAll _ _).bind fun _ => .pure Flow.proceed

/-- Adding things one after another does not depend on what adding one does not depend on. -/
theorem foldl_setVerbose {f : Settings → String → Settings}
    (blind : ∀ s text verbose, f (s.setVerbose verbose) text = (f s text).setVerbose verbose)
    (texts : List String) (s : Settings) (verbose : Bool) :
    texts.foldl f (s.setVerbose verbose) = (texts.foldl f s).setVerbose verbose := by
  induction texts generalizing s with
  | nil => rfl
  | cons text rest ih => rw [List.foldl_cons, List.foldl_cons, blind, ih]

theorem apart_addFlags (flags : List String) : PrintsApart (addFlags flags) (addFlags flags) :=
  .change fun s verbose => ⟨verbose, foldl_setVerbose (fun _ _ _ => rfl) flags s verbose⟩

/-! ## Compiling -/

theorem apart_showCompletion (quiet : Bool) (result : Completion) :
    PrintsApart (showCompletion quiet result) (showCompletion quiet result) := by
  unfold showCompletion
  exact (PrintsApart.print _).optional ((PrintsApart.complain _).ite (.pure ()))

/-- The switch decides how a compilation is announced, not what the compiler is asked to do. -/
theorem apart_compile (quiet : Bool) (call : Call) :
    PrintsApart (compile quiet call) (compile quiet call) := by
  unfold compile
  split
  · refine .get fun s verbose => (PrintsApart.printAll _ _).bind fun _ => ?_
    refine (PrintsApart.note _ _).bind fun _ => (PrintsApart.attempt _ _).bind fun result => ?_
    exact (apart_showCompletion quiet result).bind fun _ =>
      (PrintsApart.fail _).optional (.pure Flow.proceed)
  · exact .wrongCount call 2

/-! ## Messages and files -/

theorem apart_printLine (call : Call) : PrintsApart (printLine call) (printLine call) := by
  unfold printLine
  split
  · exact (PrintsApart.print _).bind fun _ => .pure _
  · exact .wrongCount call 1

theorem apart_printErrorLine (call : Call) :
    PrintsApart (printErrorLine call) (printErrorLine call) := by
  unfold printErrorLine
  split
  · exact (PrintsApart.complain _).bind fun _ => .pure _
  · exact .wrongCount call 1

theorem apart_exit (call : Call) : PrintsApart (exit call) (exit call) := by
  unfold exit
  split
  · exact .pure _
  · exact .wrongCount call 1

theorem apart_fileExists (call : Call) : PrintsApart (fileExists call) (fileExists call) := by
  unfold fileExists
  split
  · refine (PrintsApart.attempt _ _).bind fun found => ?_
    exact (PrintsApart.print _).bind fun _ => .pure _
  · exact .wrongCount call 1

theorem apart_listFiles (call : Call) : PrintsApart (listFiles call) (listFiles call) := by
  unfold listFiles
  split
  · refine (PrintsApart.attempt _ _).bind fun names => (PrintsApart.print _).bind fun _ => ?_
    exact (PrintsApart.printAll _ _).bind fun _ => .pure _
  · exact .wrongCount call 1

/-- The switch decides whether the choice is announced. -/
theorem apart_setBuildDirectory (call : Call) :
    PrintsApart (setBuildDirectory call) (setBuildDirectory call) := by
  unfold setBuildDirectory
  split
  · refine (PrintsApart.attempt _ _).bind fun _ => .get fun s verbose => .announce ?_
    exact (PrintsApart.modify fun _ verbose => ⟨verbose, rfl⟩).bind fun _ => .pure Flow.proceed
  · exact .wrongCount call 1

theorem apart_buildDirectory : PrintsApart buildDirectory buildDirectory := by
  refine .get fun s verbose => ?_
  have same : (s.setVerbose verbose).buildDir = s.buildDir := rfl
  rw [same]
  cases s.buildDir with
  | none => exact .fail _
  | some dir => exact .pure dir

theorem apart_ensureDirectory (dir : Path) :
    PrintsApart (ensureDirectory dir) (ensureDirectory dir) :=
  (PrintsApart.attempt _ _).bind fun _ => (PrintsApart.pure ()).ite (.fail _)

theorem apart_clearBuildDirectory : PrintsApart clearBuildDirectory clearBuildDirectory := by
  refine apart_buildDirectory.bind fun dir => (PrintsApart.attempt _ _).bind fun found => ?_
  refine PrintsApart.ite ?_ ?_
  · refine (apart_ensureDirectory dir).bind fun _ => (PrintsApart.attempt _ _).bind fun _ => ?_
    exact (PrintsApart.attempt _ _).bind fun _ => (PrintsApart.print _).bind fun _ => .pure _
  · exact (PrintsApart.attempt _ _).bind fun _ => (PrintsApart.print _).bind fun _ => .pure _

theorem apart_backupBuildDirectory (call : Call) :
    PrintsApart (backupBuildDirectory call) (backupBuildDirectory call) := by
  unfold backupBuildDirectory
  split
  · refine apart_buildDirectory.bind fun dir => (apart_ensureDirectory dir).bind fun _ => ?_
    exact (PrintsApart.attempt _ _).bind fun _ => (PrintsApart.print _).bind fun _ => .pure _
  · exact .wrongCount call 1

theorem apart_generateTimestamp : PrintsApart generateTimestamp generateTimestamp :=
  .get fun _ _ => (PrintsApart.ofPlan _).bind fun _ => (PrintsApart.attempt _ _).bind fun _ =>
    .pure _

/-! ## Programs and packages -/

theorem apart_checkTool (call : Call) : PrintsApart (checkTool call) (checkTool call) := by
  unfold checkTool
  split
  · refine (PrintsApart.attempt _ _).bind fun path => ?_
    exact (PrintsApart.print _).bind fun _ => .pure _
  · exact .wrongCount call 1

theorem apart_packageArguments (query package : String) :
    PrintsApart (packageArguments query package) (packageArguments query package) :=
  (PrintsApart.attempt _ _).bind fun result =>
    (PrintsApart.fail _).optional (.pure (Text.words result.output))

theorem apart_findLibrary (call : Call) : PrintsApart (findLibrary call) (findLibrary call) := by
  unfold findLibrary
  split
  · refine (apart_packageArguments _ _).bind fun flags => (PrintsApart.modify ?_).bind fun _ => ?_
    · exact fun s verbose => ⟨verbose, foldl_setVerbose (fun _ _ _ => rfl) flags s verbose⟩
    · exact (PrintsApart.print _).bind fun _ => .pure _
  · exact .wrongCount call 1

theorem apart_findFlags (call : Call) : PrintsApart (findFlags call) (findFlags call) := by
  unfold findFlags
  split
  · refine (apart_packageArguments _ _).bind fun flags => (PrintsApart.modify ?_).bind fun _ => ?_
    · exact fun s verbose => ⟨verbose, foldl_setVerbose (fun _ _ _ => rfl) flags s verbose⟩
    · exact .pure _
  · exact .wrongCount call 1

/-- The switch decides whether the command line is announced. -/
theorem apart_shellCommand (call : Call) : PrintsApart (shellCommand call) (shellCommand call) := by
  unfold shellCommand
  split
  · refine .get fun s verbose => .announce ((PrintsApart.attempt _ _).bind fun status => ?_)
    exact (PrintsApart.fail _).optional (.pure Flow.proceed)
  · exact .wrongCount call 1

theorem apart_sendNotification (call : Call) :
    PrintsApart (sendNotification call) (sendNotification call) := by
  unfold sendNotification
  split
  · refine (PrintsApart.attempt _ _).bind fun result => ?_
    exact (PrintsApart.fail _).optional (.pure Flow.proceed)
  · exact .wrongCount call 3

theorem apart_install (name : String) : PrintsApart (install name) (install name) :=
  (PrintsApart.print _).bind fun _ => (PrintsApart.attempt _ _).bind fun _ =>
    (PrintsApart.print _).bind fun _ => .pure Flow.proceed

theorem apart_installDependency (call : Call) :
    PrintsApart (installDependency call) (installDependency call) := by
  unfold installDependency
  split
  · exact apart_install _
  · exact .wrongCount call 1

theorem apart_checkAndInstall (call : Call) :
    PrintsApart (checkAndInstall call) (checkAndInstall call) := by
  unfold checkAndInstall
  split
  · refine (PrintsApart.ofPlan _).bind fun found => ?_
    cases found with
    | ok path => exact (PrintsApart.print _).bind fun _ => .pure _
    | error fault => exact apart_install _
  · exact .wrongCount call 1

theorem apart_convertToMake (script : Path) :
    PrintsApart (convertToMake script) (convertToMake script) :=
  (PrintsApart.attempt _ _).bind fun _ => .pure Flow.proceed

/-! ## Every directive but one -/

/-- Only the build report shows the switch in anything else than what is printed. -/
theorem apart_action (script : Path) (call : Call) {d : Directive}
    (other : d ≠ .generateBuildReport) :
    PrintsApart (d.action script call) (d.action script call) := by
  cases d with
  | generateBuildReport => exact absurd rfl other
  | defineVariable => exact apart_defineVariable call
  | removeVariable =>
      exact apart_remove Settings.removeVariable _ (fun _ _ verbose => ⟨rfl, verbose, rfl⟩) call
  | listDefinedVariables => exact apart_listItems _ _
  | defineLibrary => exact apart_changeBy (fun _ _ verbose => ⟨verbose, rfl⟩) call
  | defineInclude => exact apart_changeBy (fun _ _ verbose => ⟨verbose, rfl⟩) call
  | defineLibraryPath => exact apart_changeBy (fun _ _ verbose => ⟨verbose, rfl⟩) call
  | printLibraries => exact apart_listItems _ _
  | addFlag => exact apart_changeBy (fun _ _ verbose => ⟨verbose, rfl⟩) call
  | removeFlag =>
      exact apart_remove Settings.removeFlag _ (fun _ _ verbose => ⟨rfl, verbose, rfl⟩) call
  | printFlags => exact apart_listItems _ _
  | addMemorySanitizer => exact apart_addFlags _
  | addCompilerWarnings => exact apart_addFlags _
  | enableVerbose => exact .change fun _ _ => .refl _
  | winCompiler => exact .change fun _ verbose => ⟨verbose, rfl⟩
  | resetSettings => exact .change fun _ _ => .refl _
  | compile => exact apart_compile false call
  | compileSilently => exact apart_compile true call
  | printLine => exact apart_printLine call
  | printErrorLine => exact apart_printErrorLine call
  | exit => exact apart_exit call
  | fileExists => exact apart_fileExists call
  | setBuildDirectory => exact apart_setBuildDirectory call
  | clearBuildDirectory => exact apart_clearBuildDirectory
  | backupBuildDirectory => exact apart_backupBuildDirectory call
  | listFilesInDirectory => exact apart_listFiles call
  | generateTimestamp => exact apart_generateTimestamp
  | checkTool => exact apart_checkTool call
  | findLibrary => exact apart_findLibrary call
  | findFlags => exact apart_findFlags call
  | shellCommand => exact apart_shellCommand call
  | sendNotification => exact apart_sendNotification call
  | installDependency => exact apart_installDependency call
  | checkAndInstallDependency => exact apart_checkAndInstall call
  | convertToMake => exact apart_convertToMake script

end Action

end BuildScript
