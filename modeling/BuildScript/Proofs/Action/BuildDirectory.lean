import BuildScript.Action.OfDirective
import BuildScript.Proofs.Host.Outcomes
import Mathlib.Data.List.Basic

/-!
# What actions do to directories

Two requests sweep a whole directory: the one that removes it and the one that copies it. Only two
directives make such a request, only about the build directory, and only directly after the host has
confirmed that it is a directory (`clearBuildDirectory_guarded`, `backupBuildDirectory_guarded`).
Only two others change the build directory: one forgets it with all settings, the other chooses a
directory that the host has just created (`setBuildDirectory_chooses`). The actions of all other
directives are mild (`mild_action`): they sweep nothing and leave the build directory as it is.
-/

namespace BuildScript

variable {α β : Type}

/-! ## Requests that sweep a directory -/

/-- The directory that a request removes or copies. -/
def Request.swept? : Request → Option Path
  | .removeDirectory path | .copyDirectory path _ => some path
  | .print _ | .complain _ | .pathExists _ | .isDirectory _ | .load _ | .store _ _
  | .createDirectories _ | .listDirectory _ | .findProgram _ | .runProgram _ _ | .runShell _
  | .installPackage _ | .clock | .stopwatch => none

/-- The questions that must be asked directly before a request, with the answers that allow it. -/
def Request.checks : Request → List Event
  | .removeDirectory path =>
    [.call (.pathExists path) (.ok true), .call (.isDirectory path) (.ok true)]
  | .copyDirectory path _ => [.call (.isDirectory path) (.ok true)]
  | .print _ | .complain _ | .pathExists _ | .isDirectory _ | .load _ | .store _ _
  | .createDirectories _ | .listDirectory _ | .findProgram _ | .runProgram _ _ | .runShell _
  | .installPackage _ | .clock | .stopwatch => []

/-- The directory that was removed or copied, if the event is such a request. -/
def Event.swept? : Event → Option Path
  | .call request _ => request.swept?
  | .log _ _ => none

/-- Nothing is removed or copied. -/
def Spares (trace : List Event) : Prop := ∀ event ∈ trace, event.swept? = none

theorem Spares.nil : Spares [] := List.forall_mem_nil _

theorem Spares.cons {event : Event} {trace : List Event} (here : event.swept? = none)
    (rest : Spares trace) : Spares (event :: trace) :=
  List.forall_mem_cons.mpr ⟨here, rest⟩

theorem Spares.append {first second : List Event} (left : Spares first) (right : Spares second) :
    Spares (first ++ second) :=
  List.forall_mem_append.mpr ⟨left, right⟩

theorem Spares.calls {trace : List Event} (spared : Spares trace) : Spares (calls trace) :=
  fun event member => spared event (List.mem_filter.mp member).1

/-- Every directory that is removed or copied is `dir`, and the checks stand directly before. -/
def Guarded (dir : Option Path) (requests : List Event) : Prop :=
  ∀ before request reply after path, requests = before ++ .call request reply :: after →
    request.swept? = some path → dir = some path ∧ request.checks <:+ before

theorem Spares.notMem {trace : List Event} (spared : Spares trace) {request : Request} {path : Path}
    (swept : request.swept? = some path) (reply : request.Reply) :
    Event.call request reply ∉ trace := by
  intro member
  have nothing : request.swept? = none := spared _ member
  rw [nothing] at swept
  cases swept

theorem Spares.guarded {requests : List Event} (spared : Spares requests) (dir : Option Path) :
    Guarded dir requests := by
  rintro before request reply after path rfl swept
  exact absurd (List.mem_append_right before List.mem_cons_self) (spared.notMem swept reply)

/-- A single request that sweeps is guarded by the checks before it. -/
theorem Guarded.ofChecked (request : Request) {before after : List Event} {path : Path}
    (earlier : Spares before) (later : Spares after) (swept : request.swept? = some path)
    (checked : request.checks <:+ before) (reply : request.Reply) :
    Guarded (some path) (before ++ .call request reply :: after) := by
  intro before' request' reply' after' path' split swept'
  -- Neither side of the request sweeps anything, so there is no other place to split.
  obtain ⟨rfl, same, -⟩ := (List.append_cons_inj_of_notMem (earlier.notMem swept' reply')
    (later.notMem swept' reply')).mp split
  cases same
  exact ⟨swept.symm.trans swept', checked⟩

/-! ## Plans that sweep nothing -/

/-- A request that sweeps nothing. -/
theorem spares_request {r : Request} (spared : r.swept? = none) :
    (Plan.request r).Ensures fun trace _ => Spares trace :=
  fun _ => .cons spared .nil

theorem readSource_spares (path : Path) :
    (Script.readSource path).Ensures fun trace _ => Spares trace := by
  intro reply
  cases reply with
  | error fault => exact .cons rfl .nil
  | ok bytes =>
      simp only [Plan.done_bind]
      split
      · exact .cons rfl .nil
      · exact .cons rfl .nil

theorem showWarnings_spares (script : Path) (warnings : List (Nat × Make.ConversionError)) :
    (Make.showWarnings script warnings).Ensures fun trace _ => Spares trace := by
  induction warnings with
  | nil => exact .nil
  | cons warning rest ih => exact fun _ => ih.mono fun _ _ spared => .cons rfl (.cons rfl spared)

theorem save_spares (script output : Path) (conversion : Make.Conversion) :
    (Make.save script output conversion).Ensures fun trace _ => Spares trace := by
  intro reply
  cases reply with
  | error fault => exact .cons rfl .nil
  | ok done => exact fun _ => .cons rfl (.cons rfl (.cons rfl .nil))

theorem convertFile_spares (script output : Path) :
    (Make.convertFile script output).Ensures fun trace _ => Spares trace := by
  refine (readSource_spares script).bind fun read outcome spared => ?_
  cases outcome with
  | error fault => exact spared.append .nil
  | ok source =>
      dsimp only
      split
      · exact spared.append .nil
      · rename_i conversion _
        refine (showWarnings_spares script conversion.warnings).bind fun shown _ shownSpared => ?_
        refine (save_spares script output conversion).mono fun saved _ savedSpared => ?_
        exact spared.append (shownSpared.append savedSpared)

namespace Action

open Script

/-! ## Mild actions -/

/-- The action removes and copies no directory, and it leaves the build directory as it is. -/
def Mild (x : Action α) : Prop :=
  ∀ s, (x.perform s).Ensures fun trace outcome =>
    Spares trace ∧ outcome.2.buildDir = s.buildDir

theorem Mild.pure (a : α) : Mild (Pure.pure a) := fun _ => ⟨.nil, rfl⟩

theorem Mild.fail (message : String) : Mild (Action.fail message : Action α) := fun _ => ⟨.nil, rfl⟩

theorem Mild.wrongCount (call : Call) (n : Nat) : Mild (Action.wrongCount call n : Action α) :=
  fun _ => ⟨.nil, rfl⟩

theorem Mild.get : Mild (get : Action Settings) := fun _ => ⟨.nil, rfl⟩

theorem Mild.modify {f : Settings → Settings} (kept : ∀ s, (f s).buildDir = s.buildDir) :
    Mild (modify f : Action PUnit) := fun s => ⟨.nil, kept s⟩

theorem Mild.ofPlan {p : Plan α} (spares : p.Ensures fun trace _ => Spares trace) :
    Mild (liftM p : Action α) := by
  intro s
  rw [perform_liftM]
  refine spares.bind fun trace _ spared => ⟨?_, rfl⟩
  rwa [List.append_nil]

theorem Mild.attempt (context : String) {p : Plan (Except Fault α)}
    (spares : p.Ensures fun trace _ => Spares trace) : Mild (Action.attempt context p) := by
  intro s
  rw [perform_attempt]
  refine spares.bind fun trace _ spared => ⟨?_, rfl⟩
  rwa [List.append_nil]

theorem Mild.print (text : String) : Mild (Action.print text) := .ofPlan (spares_request rfl)

theorem Mild.complain (text : String) : Mild (Action.complain text) := .ofPlan (spares_request rfl)

theorem Mild.note (level : Level) (text : String) : Mild (Action.note level text) :=
  fun _ => ⟨.cons rfl .nil, rfl⟩

theorem Mild.bind {x : Action α} {f : α → Action β} (first : Mild x) (second : ∀ a, Mild (f a)) :
    Mild (x >>= f) := by
  intro s
  rw [perform_bind]
  refine (first s).bind fun trace outcome mild => ?_
  obtain ⟨result, next⟩ := outcome
  obtain ⟨spared, kept⟩ := mild
  cases result with
  | error e => exact ⟨spared.append .nil, kept⟩
  | ok a =>
      refine (second a next).mono fun rest outcome later => ?_
      exact ⟨spared.append later.1, later.2.trans kept⟩

theorem Mild.ite {c : Prop} [Decidable c] {x y : Action α} (yes : Mild x) (no : Mild y) :
    Mild (if c then x else y) := by
  split
  · exact yes
  · exact no

/-- A step that is taken on a condition, and what follows it in either case. -/
theorem Mild.optional {c : Prop} [Decidable c] {x : Action Unit} {f : Unit → Action β}
    (step : Mild x) (rest : Mild (f ())) : Mild (if c then x >>= f else f ()) :=
  (step.bind fun _ => rest).ite rest

theorem Mild.printAll (texts : List String) : Mild (Action.printAll texts) := by
  induction texts with
  | nil => exact .pure ()
  | cons text rest ih => exact (Mild.print text).bind fun _ => ih

/-! ## Settings -/

theorem Mild.change {f : Settings → Settings} (kept : ∀ s, (f s).buildDir = s.buildDir) :
    Mild (Action.change f) :=
  (Mild.modify kept).bind fun _ => .pure Flow.proceed

theorem mild_changeBy (f : Settings → String → Settings)
    (kept : ∀ s text, (f s text).buildDir = s.buildDir) (call : Call) : Mild (changeBy f call) := by
  unfold changeBy
  split
  · exact .change fun s => kept s _
  · exact .wrongCount call 1

theorem mild_defineVariable (call : Call) : Mild (defineVariable call) := by
  unfold defineVariable
  split
  · exact .change fun _ => rfl
  · exact .wrongCount call 2

theorem mild_remove (f : Settings → String → Bool × Settings) (missing : String → String)
    (kept : ∀ s name, (f s name).2.buildDir = s.buildDir) (call : Call) :
    Mild (remove f missing call) := by
  unfold remove
  split
  · rename_i name _
    -- The new settings depend on the old ones, so the closure lemmas do not apply.
    intro s
    rw [perform_bind, perform_get, Plan.done_bind, resume_ok]
    dsimp only
    rw [perform_bind, perform_set, Plan.done_bind, resume_ok]
    cases (f s name).1 with
    | true => exact ⟨.nil, kept s name⟩
    | false => exact ⟨.nil, kept s name⟩
  · exact .wrongCount call 1

theorem mild_listItems (title : String) (items : Settings → List String) :
    Mild (listItems title items) :=
  (Mild.print title).bind fun _ => Mild.get.bind fun _ =>
    (Mild.printAll _).bind fun _ => .pure Flow.proceed

/-- Adding things one after another leaves alone what adding one leaves alone. -/
theorem foldl_buildDir (f : Settings → String → Settings)
    (kept : ∀ s text, (f s text).buildDir = s.buildDir) (texts : List String) (s : Settings) :
    (texts.foldl f s).buildDir = s.buildDir := by
  induction texts generalizing s with
  | nil => rfl
  | cons text rest ih => rw [List.foldl_cons, ih, kept]

theorem mild_addFlags (flags : List String) : Mild (addFlags flags) :=
  .change (foldl_buildDir Settings.addFlag (fun _ _ => rfl) flags)

/-! ## Programs, messages and files -/

theorem mild_showCompletion (quiet : Bool) (result : Completion) :
    Mild (showCompletion quiet result) := by
  unfold showCompletion
  exact (Mild.print _).optional ((Mild.complain _).ite (.pure ()))

theorem mild_compile (quiet : Bool) (call : Call) : Mild (compile quiet call) := by
  unfold compile
  split
  · refine Mild.get.bind fun settings => (Mild.printAll _).bind fun _ => ?_
    refine (Mild.note _ _).bind fun _ => (Mild.attempt _ (spares_request rfl)).bind fun result => ?_
    exact (mild_showCompletion _ _).bind fun _ => (Mild.fail _).optional (.pure Flow.proceed)
  · exact .wrongCount call 2

theorem mild_printLine (call : Call) : Mild (printLine call) := by
  unfold printLine
  split
  · exact (Mild.print _).bind fun _ => .pure _
  · exact .wrongCount call 1

theorem mild_printErrorLine (call : Call) : Mild (printErrorLine call) := by
  unfold printErrorLine
  split
  · exact (Mild.complain _).bind fun _ => .pure _
  · exact .wrongCount call 1

theorem mild_exit (call : Call) : Mild (exit call) := by
  unfold exit
  split
  · exact .pure _
  · exact .wrongCount call 1

theorem mild_fileExists (call : Call) : Mild (fileExists call) := by
  unfold fileExists
  split
  · refine (Mild.attempt _ (spares_request rfl)).bind fun found => ?_
    exact (Mild.print _).bind fun _ => .pure _
  · exact .wrongCount call 1

theorem mild_listFiles (call : Call) : Mild (listFiles call) := by
  unfold listFiles
  split
  · refine (Mild.attempt _ (spares_request rfl)).bind fun names => ?_
    exact (Mild.print _).bind fun _ => (Mild.printAll _).bind fun _ => .pure _
  · exact .wrongCount call 1

theorem mild_generateReport (call : Call) : Mild (generateReport call) := by
  unfold generateReport
  split
  · refine Mild.get.bind fun settings => (Mild.attempt _ (spares_request rfl)).bind fun _ => ?_
    exact (Mild.print _).bind fun _ => .pure _
  · exact .wrongCount call 1

theorem mild_generateTimestamp : Mild generateTimestamp :=
  Mild.get.bind fun _ => (Mild.ofPlan (spares_request rfl)).bind fun _ =>
    (Mild.attempt _ (spares_request rfl)).bind fun _ => .pure _

theorem mild_checkTool (call : Call) : Mild (checkTool call) := by
  unfold checkTool
  split
  · refine (Mild.attempt _ (spares_request rfl)).bind fun path => ?_
    exact (Mild.print _).bind fun _ => .pure _
  · exact .wrongCount call 1

theorem mild_packageArguments (query package : String) : Mild (packageArguments query package) :=
  (Mild.attempt _ (spares_request rfl)).bind fun result =>
    (Mild.fail _).optional (.pure (Text.words result.output))

theorem mild_findLibrary (call : Call) : Mild (findLibrary call) := by
  unfold findLibrary
  split
  · refine (mild_packageArguments _ _).bind fun flags => ?_
    refine (Mild.modify (foldl_buildDir Settings.addLinkFlag (fun _ _ => rfl) flags)).bind fun _ => ?_
    exact (Mild.print _).bind fun _ => .pure _
  · exact .wrongCount call 1

theorem mild_findFlags (call : Call) : Mild (findFlags call) := by
  unfold findFlags
  split
  · refine (mild_packageArguments _ _).bind fun flags => ?_
    exact (Mild.modify (foldl_buildDir Settings.addFlag (fun _ _ => rfl) flags)).bind fun _ =>
      .pure _
  · exact .wrongCount call 1

theorem mild_shellCommand (call : Call) : Mild (shellCommand call) := by
  unfold shellCommand
  split
  · refine Mild.get.bind fun settings => (Mild.print _).optional ?_
    refine (Mild.attempt _ (spares_request rfl)).bind fun status => ?_
    exact (Mild.fail _).optional (.pure Flow.proceed)
  · exact .wrongCount call 1

theorem mild_sendNotification (call : Call) : Mild (sendNotification call) := by
  unfold sendNotification
  split
  · refine (Mild.attempt _ (spares_request rfl)).bind fun result => ?_
    exact (Mild.fail _).optional (.pure Flow.proceed)
  · exact .wrongCount call 3

theorem mild_install (name : String) : Mild (install name) :=
  (Mild.print _).bind fun _ => (Mild.attempt _ (spares_request rfl)).bind fun _ =>
    (Mild.print _).bind fun _ => .pure Flow.proceed

theorem mild_installDependency (call : Call) : Mild (installDependency call) := by
  unfold installDependency
  split
  · exact mild_install _
  · exact .wrongCount call 1

theorem mild_checkAndInstall (call : Call) : Mild (checkAndInstall call) := by
  unfold checkAndInstall
  split
  · refine (Mild.ofPlan (spares_request rfl)).bind fun found => ?_
    cases found with
    | ok path => exact (Mild.print _).bind fun _ => .pure _
    | error fault => exact mild_install _
  · exact .wrongCount call 1

theorem mild_convertToMake (script : Path) : Mild (convertToMake script) :=
  (Mild.attempt _ (convertFile_spares script _)).bind fun _ => .pure Flow.proceed

end Action

/-! ## All but four directives -/

/-- Whether a directive is about the build directory itself. -/
def Directive.steers : Directive → Bool
  | .setBuildDirectory | .resetSettings | .clearBuildDirectory | .backupBuildDirectory => true
  | _ => false

namespace Action

open Script

theorem mild_action (script : Path) (call : Call) (d : Directive) (aside : d.steers = false) :
    Mild (d.action script call) := by
  cases d with
  | resetSettings => cases aside
  | setBuildDirectory => cases aside
  | clearBuildDirectory => cases aside
  | backupBuildDirectory => cases aside
  | defineVariable => exact mild_defineVariable call
  | removeVariable => exact mild_remove Settings.removeVariable _ (fun _ _ => rfl) call
  | listDefinedVariables => exact mild_listItems _ _
  | defineLibrary => exact mild_changeBy Settings.addLibrary (fun _ _ => rfl) call
  | defineInclude => exact mild_changeBy Settings.addInclude (fun _ _ => rfl) call
  | defineLibraryPath => exact mild_changeBy Settings.addLibraryPath (fun _ _ => rfl) call
  | printLibraries => exact mild_listItems _ _
  | addFlag => exact mild_changeBy Settings.addFlag (fun _ _ => rfl) call
  | removeFlag => exact mild_remove Settings.removeFlag _ (fun _ _ => rfl) call
  | printFlags => exact mild_listItems _ _
  | addMemorySanitizer => exact mild_addFlags _
  | addCompilerWarnings => exact mild_addFlags _
  | enableVerbose => exact .change fun _ => rfl
  | winCompiler => exact .change fun _ => rfl
  | compile => exact mild_compile false call
  | compileSilently => exact mild_compile true call
  | printLine => exact mild_printLine call
  | printErrorLine => exact mild_printErrorLine call
  | exit => exact mild_exit call
  | fileExists => exact mild_fileExists call
  | listFilesInDirectory => exact mild_listFiles call
  | generateBuildReport => exact mild_generateReport call
  | generateTimestamp => exact mild_generateTimestamp
  | checkTool => exact mild_checkTool call
  | findLibrary => exact mild_findLibrary call
  | findFlags => exact mild_findFlags call
  | shellCommand => exact mild_shellCommand call
  | sendNotification => exact mild_sendNotification call
  | installDependency => exact mild_installDependency call
  | checkAndInstallDependency => exact mild_checkAndInstall call
  | convertToMake => exact mild_convertToMake script

/-! ## The directives of the build directory -/

/-- Choosing a build directory sweeps nothing. If it completes, the host has created the directory
that is chosen; if it fails, the build directory is what it was. -/
theorem setBuildDirectory_chooses (call : Call) (s : Settings) :
    ((setBuildDirectory call).perform s).Ensures fun trace outcome =>
      Spares trace ∧
        match outcome.1 with
        | .ok _ => ∃ path, .call (.createDirectories path) (.ok ()) ∈ trace ∧
            outcome.2.buildDir = some path
        | .error _ => outcome.2.buildDir = s.buildDir := by
  unfold setBuildDirectory
  split
  · rename_i dir _
    rw [perform_bind, createBuildDirectory, perform_attempt]
    intro reply
    cases reply with
    | error fault => exact ⟨.cons rfl .nil, rfl⟩
    | ok created =>
        have here {trace : List Event} : .call (.createDirectories (Path.ofString dir)) (.ok ()) ∈
            Event.call (.createDirectories (Path.ofString dir)) (.ok created) :: trace := .head _
        simp only [Plan.done_bind, Except.mapError, CallError.explain, resume_ok, perform_bind,
          perform_get]
        -- With verbose settings a message stands between the request and the change.
        split
        · exact fun _ => ⟨.cons rfl (.cons rfl .nil), _, here, rfl⟩
        · exact ⟨.cons rfl .nil, _, here, rfl⟩
  · exact ⟨.nil, rfl⟩

/-- Forgetting all settings makes no request. -/
theorem resetSettings_forgets (s : Settings) :
    (resetSettings.perform s).Ensures fun trace outcome =>
      trace = [] ∧ outcome.2.buildDir = none :=
  ⟨rfl, rfl⟩

/-- Giving up unless the directory is there asks about it and does nothing else. If this completes,
the last request was the question, answered with yes. -/
theorem ensureDirectory_asks (dir : Path) (s : Settings) :
    ((ensureDirectory dir).perform s).Ensures fun trace outcome =>
      Spares trace ∧ outcome.2 = s ∧
        ∀ done, outcome.1 = .ok done → trace = [.call (.isDirectory dir) (.ok true)] := by
  rw [ensureDirectory, perform_bind, perform_attempt]
  intro reply
  cases reply with
  | error fault => exact ⟨.cons rfl .nil, rfl, fun _ completed => by cases completed⟩
  | ok found =>
      cases found with
      | false => exact ⟨.cons rfl .nil, rfl, fun _ completed => by cases completed⟩
      | true => exact ⟨.cons rfl .nil, rfl, fun _ _ => rfl⟩

theorem buildDirectory_perform {s : Settings} {dir : Path} (chosen : s.buildDir = some dir) :
    buildDirectory.perform s = .done (.ok dir, s) := by
  rw [buildDirectory, perform_bind, perform_get, Plan.done_bind, resume_ok, chosen]
  rfl

/-- Without a build directory nothing is done. -/
theorem buildDirectory_missing {s : Settings} (missing : s.buildDir = none)
    (f : Path → Action Flow) : ∃ error, (buildDirectory >>= f).perform s = .done (.error error, s) := by
  rw [perform_bind, buildDirectory, perform_bind, perform_get, Plan.done_bind, resume_ok, missing]
  exact ⟨_, rfl⟩

/-- The build directory is copied once it is known to be a directory. -/
theorem backupBuildDirectory_guarded (call : Call) (s : Settings) :
    ((backupBuildDirectory call).perform s).Ensures fun trace outcome =>
      Guarded s.buildDir (calls trace) ∧ outcome.2.buildDir = s.buildDir := by
  unfold backupBuildDirectory
  split
  · rename_i target _
    cases chosen : s.buildDir with
    | none =>
        obtain ⟨error, nothing⟩ := buildDirectory_missing chosen _
        rw [nothing]
        exact ⟨Spares.nil.guarded _, chosen⟩
    | some dir =>
        rw [perform_bind, buildDirectory_perform chosen, Plan.done_bind, resume_ok, perform_bind]
        refine (ensureDirectory_asks dir s).bind fun asked outcome checked => ?_
        obtain ⟨result, next⟩ := outcome
        obtain ⟨spared, rfl, allowed⟩ := checked
        cases result with
        | error e => exact ⟨(spared.append .nil).calls.guarded _, chosen⟩
        | ok done =>
            obtain rfl := allowed done rfl
            rw [resume_ok, perform_bind, perform_attempt]
            intro reply
            have guarded {after : List Event} (later : Spares after) :=
              Guarded.ofChecked (.copyDirectory dir (Path.ofString target)) spared later rfl
                (List.suffix_refl _) reply
            cases reply with
            | error fault => exact ⟨guarded .nil, chosen⟩
            | ok copied => exact fun _ => ⟨guarded (.cons rfl .nil), chosen⟩
  · exact ⟨Spares.nil.guarded _, rfl⟩

/-- The build directory is removed once it is known to be there and to be a directory. -/
theorem clearBuildDirectory_guarded (s : Settings) :
    (clearBuildDirectory.perform s).Ensures fun trace outcome =>
      Guarded s.buildDir (calls trace) ∧ outcome.2.buildDir = s.buildDir := by
  cases chosen : s.buildDir with
  | none =>
      obtain ⟨error, nothing⟩ := buildDirectory_missing chosen _
      rw [clearBuildDirectory, nothing]
      exact ⟨Spares.nil.guarded _, chosen⟩
  | some dir =>
      have renew : Mild (do
          createBuildDirectory dir
          Action.print s!"Cleared build directory {dir}"
          Pure.pure Flow.proceed) :=
        (Mild.attempt _ (spares_request rfl)).bind fun _ => (Mild.print _).bind fun _ => .pure _
      rw [clearBuildDirectory, perform_bind, buildDirectory_perform chosen, Plan.done_bind,
        resume_ok, perform_bind, perform_attempt]
      intro reply
      cases reply with
      | error fault => exact ⟨(Spares.cons rfl .nil).guarded _, chosen⟩
      | ok found =>
          cases found with
          | false =>
              refine (renew s).mono fun rest outcome mild => ⟨?_, mild.2.trans chosen⟩
              exact (Spares.cons rfl mild.1).calls.guarded _
          | true =>
              simp only [Plan.done_bind, Except.mapError, CallError.explain, resume_ok, if_true,
                perform_bind (ensureDirectory dir)]
              refine (ensureDirectory_asks dir s).bind fun asked outcome checked => ?_
              obtain ⟨result, next⟩ := outcome
              obtain ⟨spared, rfl, allowed⟩ := checked
              cases result with
              | error e => exact ⟨(Spares.cons rfl (spared.append .nil)).calls.guarded _, chosen⟩
              | ok done =>
                  obtain rfl := allowed done rfl
                  rw [resume_ok, perform_bind, perform_attempt]
                  intro reply
                  have guarded {after : List Event} (later : Spares after) :=
                    Guarded.ofChecked (.removeDirectory dir) (.cons rfl spared) later rfl
                      (List.suffix_refl _) reply
                  cases reply with
                  | error fault => exact ⟨guarded .nil, chosen⟩
                  | ok removed =>
                      refine (renew next).mono fun rest outcome mild => ?_
                      exact ⟨guarded mild.1.calls, mild.2.trans chosen⟩

end Action

end BuildScript
