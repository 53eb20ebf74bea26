import BuildScript.Host.Workspace
import BuildScript.Proofs.Action.BuildDirectory
import BuildScript.Proofs.FileSystem.Copying
import BuildScript.Proofs.Vocabulary
import BuildScript.Session

/-!
# Backups of the build directory

In a workspace a backup is a recursive copy of the build directory (`dispatch_backup`), and nothing
looks at where the copy is to go. It always comes to an end. If the two directories are apart, it
leaves all files of the build directory as they are, and if it reports success, then all of them are
in the backup. Where they are not apart, neither holds: a build directory that is copied onto itself
loses the content of its files, because each copy is emptied before its source is read.
-/

namespace BuildScript

open FileSystem Script

variable (platform : Platform)

namespace Action

/-- A directory is checked without a change. -/
theorem ensureDirectory_run (dir : Path) (settings : Settings) (w : Workspace) :
    (∃ error trace, ((ensureDirectory dir).perform settings).run (Workspace.host platform) w =
        ((.error error, settings), trace, w)) ∨
      ∃ trace, ((ensureDirectory dir).perform settings).run (Workspace.host platform) w =
        ((.ok (), settings), trace, w) := by
  rw [ensureDirectory, perform_bind, perform_attempt]
  cases found : w.files.hasDir dir.text with
  | false =>
      refine .inl ⟨.failed s!"Build directory {dir} is missing or not a directory",
        [.call (.isDirectory dir) (.ok false)], ?_⟩
      simp [Plan.run, Workspace.host, Workspace.answer, found, CallError.explain, Except.mapError]
  | true =>
      refine .inr ⟨[.call (.isDirectory dir) (.ok true)], ?_⟩
      simp [Plan.run, Workspace.host, Workspace.answer, found, CallError.explain, Except.mapError]

/-- A backup fails without a change, or it is a recursive copy. -/
theorem backupBuildDirectory_run (call : Call) {destination : String}
    (args : call.args = [destination]) {settings : Settings} {dir : Path}
    (chosen : settings.buildDir = some dir) (w : Workspace) :
    let target := Path.ofString destination
    let copied := exec (copyDirs platform.order dir.text target.text Route.maxPath) w.files
    let outcome := ((backupBuildDirectory call).perform settings).run (Workspace.host platform) w
    (∃ error, outcome.1.1 = .error error ∧ outcome.2.2.files = w.files) ∨
      outcome.2.2.files = copied.2 ∧ (outcome.1.1 = .ok .proceed ↔ copied.1 = .ok ()) := by
  intro target copied outcome
  have unfolded : outcome = ((do
      ensureDirectory dir
      attempt s!"Failed to back up {dir} to {target}" (Plan.request (.copyDirectory dir target))
      print s!"Backed up {dir} to {target}"
      return Flow.proceed : Action Flow).perform settings).run (Workspace.host platform) w := by
    simp only [outcome, backupBuildDirectory, args]
    rw [perform_bind, buildDirectory_perform chosen, Plan.done_bind, resume_ok]
  rw [unfolded, perform_bind, Plan.run_bind]
  obtain ⟨error, trace, refused⟩ | ⟨trace, allowed⟩ := ensureDirectory_run platform dir settings w
  · rw [refused]
    exact .inl ⟨error, rfl, rfl⟩
  · rw [allowed]
    have answer : (Workspace.host platform).answer (.copyDirectory dir target) w =
        (copied.1, { w with files := copied.2 }) := rfl
    refine .inr ?_
    simp only [resume_ok, perform_bind, perform_attempt, Plan.request, Plan.ask_bind,
      Plan.done_bind, Plan.run, answer]
    cases copied.1 with
    | error fault => exact ⟨rfl, by simp [CallError.explain, Except.mapError, Plan.run]⟩
    | ok done => exact ⟨rfl, by simp [CallError.explain, Except.mapError, Plan.run]⟩

end Action

namespace Session

/-- The call that backs the build directory up. -/
def backupCall (destination : String) : Call := ⟨Directive.backupBuildDirectory.name, [destination]⟩

theorem dispatch_backup {s : Session} (standard : s.vocabulary = .standard) {dir : Path}
    (chosen : s.settings.buildDir = some dir) (destination : String) (w : Workspace) :
    let target := Path.ofString destination
    let copied := exec (copyDirs platform.order dir.text target.text Route.maxPath) w.files
    let outcome := (s.dispatch (backupCall destination)).run (Workspace.host platform) w
    (∃ error, outcome.1.1 = .error error ∧ outcome.2.2.files = w.files) ∨
      outcome.2.2.files = copied.2 ∧ (outcome.1.1 = .ok .proceed ↔ copied.1 = .ok ()) := by
  intro target copied outcome
  have bound : s.vocabulary.get? (backupCall destination).name =
      some ⟨Directive.backupBuildDirectory.arity, .backupBuildDirectory⟩ := by
    rw [standard]
    exact Vocabulary.standard_get?_name .backupBuildDirectory
  have acted : s.dispatch (backupCall destination) =
      s.act .backupBuildDirectory (backupCall destination) := by
    simp only [dispatch, bound]
    rfl
  have performed :
      let action := Action.backupBuildDirectory (backupCall destination)
      outcome.1.1 = ((action.perform s.settings).run (Workspace.host platform) w).1.1 ∧
        outcome.2.2 = ((action.perform s.settings).run (Workspace.host platform) w).2.2 := by
    simp only [outcome, acted, act, Plan.bind_eq, Plan.run_bind]
    exact ⟨rfl, rfl⟩
  rw [performed.1, performed.2]
  exact Action.backupBuildDirectory_run platform (backupCall destination) rfl chosen w

/-- A backup of the build directory to a place apart from it is a backup. Let a session with the
standard vocabulary have chosen a build directory, on any platform, in a workspace with a proper tree
of files.
Whatever the destination is, the copy comes to an end before the bound on its levels matters. If the
places of the two directories are apart, then every file of the build directory is what it was,
whether or not the call succeeds; and if the call succeeds and there is no device at the
destination, then every file and every directory of the build directory is also in the backup, the
files with the same content and executable if they were. -/
theorem dispatch_backup_apart {s : Session} (standard : s.vocabulary = .standard) {dir : Path}
    (chosen : s.settings.buildDir = some dir) {w : Workspace} (proper : w.files.Proper)
    (destination : String) :
    let target := Path.ofString destination
    let outcome := (s.dispatch (backupCall destination)).run (Workspace.host platform) w
    let source := (Route.ofText dir.text).place w.files.directory
    let goal := (Route.ofText target.text).place w.files.directory
    (∀ more, exec (copyDirs platform.order dir.text target.text (Route.maxPath + more)) w.files =
        exec (copyDirs platform.order dir.text target.text Route.maxPath) w.files) ∧
      (Apart source goal →
        (∀ rest content x, w.files.root.get? (source ++ rest) = some (.file content x) →
          outcome.2.2.files.root.get? (source ++ rest) = some (.file content x)) ∧
        (outcome.1.1 = .ok .proceed → w.files.NoDevice goal →
          Copied w.files source outcome.2.2.files goal)) := by
  intro target outcome source goal
  refine ⟨copyDirs_maxPath proper platform.order dir.text target.text, fun apart => ?_⟩
  obtain ⟨error, failed, same⟩ | ⟨files, success⟩ :=
    dispatch_backup platform standard chosen destination w
  · refine ⟨fun rest content x found => ?_, fun done => ?_⟩
    · rw [show outcome.2.2.files = w.files from same]
      exact found
    · cases failed.symm.trans done
  · obtain ⟨grown, grows, copy⟩ :=
      copyDirs_outcome proper platform.order dir.text target.text Route.maxPath
    rw [show outcome.2.2.files = _ from files]
    refine ⟨fun rest content x found => ?_, fun done noDevice => ?_⟩
    · rw [copy.inside.get?_apart apart rest]
      exact grows.get?_leaf (fun free => by cases free.symm.trans found) rfl found
    · have copied := copy.copied apart (success.mp done) (noDevice.of_changes grows)
      refine ⟨fun rest content x found => copied.files rest content x ?_,
        fun rest isDir => copied.dirs rest (grows.dirs _ isDir)⟩
      exact grows.get?_leaf (fun free => by cases free.symm.trans found) rfl found

/-- A workspace with a directory that holds a file and a directory with another file. -/
def twoFiles : Workspace :=
  let lower := Node.dir [("g", .file "2".toUTF8 true)]
  ⟨⟨.dir [("out", .dir [("f", .file "1".toUTF8 false), ("lib", lower)])], []⟩, "", .empty, .empty, "0"⟩

theorem twoFiles_proper : twoFiles.files.Proper where
  root := by
    refine Node.proper_dir (by decide +kernel) (List.forall_mem_singleton.mpr ?_)
    refine Node.proper_dir (by decide +kernel) ?_
    refine List.forall_mem_cons.mpr ⟨?_, List.forall_mem_singleton.mpr ?_⟩
    · exact Node.proper_of_not_isDir rfl
    · refine Node.proper_dir (by decide +kernel) (List.forall_mem_singleton.mpr ?_)
      exact Node.proper_of_not_isDir rfl
  directory := ⟨_, rfl⟩

/-- A session that has chosen the directory `out`. -/
def outSession : Session :=
  { start ⟨"build.samba"⟩ (.ofTargets []) with settings := Settings.initial.setBuildDir ⟨"out"⟩ }

/-- Copied to a new directory, the files are where they were, and in the backup. -/
theorem dispatch_backup_apart_lib :
    let outcome := (outSession.dispatch (backupCall "backup")).run (Workspace.host .bare) twoFiles
    outcome.2.2.files.root.get? ["out", "lib", "g"] = some (.file "2".toUTF8 true) ∧
      outcome.2.2.files.root.get? ["backup", "lib", "g"] = some (.file "2".toUTF8 true) := by
  intro outcome
  have source : (Route.ofText "out").place twoFiles.files.directory = ["out"] := by decide +kernel
  have goal : (Route.ofText (Path.ofString "backup").text).place twoFiles.files.directory =
      ["backup"] := by decide +kernel
  have chosen : outSession.settings.buildDir = some ⟨"out"⟩ := rfl
  obtain ⟨-, kept⟩ :=
    dispatch_backup_apart .bare (s := outSession) rfl chosen twoFiles_proper "backup"
  rw [source, goal] at kept
  obtain ⟨here, copied⟩ := kept (by decide)
  have done : outcome.1.1 = .ok .proceed := by
    have reported : outcome.1.1.toOption = some .proceed := by decide +kernel
    cases result : outcome.1.1 with
    | error error => cases result ▸ reported
    | ok flow =>
        rw [result] at reported
        exact congrArg _ (Option.some.inj reported)
  have free : twoFiles.files.NoDevice ["backup"] := fun rest found => by cases found
  exact ⟨here ["lib", "g"] "2".toUTF8 true rfl,
    (copied done free).files ["lib", "g"] "2".toUTF8 true rfl⟩

/-- Copied onto itself, a file is empty, and the backup reports success. -/
theorem dispatch_backup_onto_itself :
    let outcome := (outSession.dispatch (backupCall "out")).run (Workspace.host .bare) twoFiles
    (twoFiles.files.load "out/f").toOption = some "1".toUTF8 ∧
      outcome.1.1.toOption = some .proceed ∧
        (outcome.2.2.files.load "out/f").toOption = some .empty := by
  decide +kernel

end Session

end BuildScript
