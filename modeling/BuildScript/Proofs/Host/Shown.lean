import BuildScript.Host.Rehearsal
import BuildScript.Host.Workspace
import BuildScript.Proofs.Host.Alike

/-!
# What a host has shown

What was shown on the console is only for people. A rehearsal forgets it at once, and a workspace
keeps it but never looks at it: two workspaces that differ in nothing else answer every request
alike (`Workspace.answer_withConsole`). So both ignore the console.
-/

namespace BuildScript

theorem Rehearsal.answer_console (r : Request) (console : r.isConsole = true) (w : Rehearsal) :
    (answer r w).2 = w := by
  cases r with
  | print text =>
      cases refused : w.refusal? (.print text) with
      | none => simp [answer, refused, serve]
      | some fault => simp [answer, refused, serve, Request.failure?]
  | complain text =>
      cases refused : w.refusal? (.complain text) with
      | none => simp [answer, refused, serve]
      | some fault => simp [answer, refused, serve, Request.failure?]
  | _ => cases console

theorem Rehearsal.ignoresConsole : host.IgnoresConsole Eq where
  toRespects := host.respects_eq
  symm := Eq.symm
  trans := Eq.trans
  shown r w console := answer_console r console w

namespace Workspace

variable (platform : Platform)

/-- The workspace with other text on the console. -/
def withConsole (w : Workspace) (output errors : ByteArray) : Workspace :=
  { w with output, errors }

/-- The workspaces differ at most in the text on the console. -/
def SameButConsole (w w' : Workspace) : Prop := ∃ output errors, w' = w.withConsole output errors

theorem launch_withConsole (w : Workspace) (o e : ByteArray) (name : String) (args : List String) :
    (w.withConsole o e).launch platform name args =
      ((w.launch platform name args).1, (w.launch platform name args).2.withConsole o e) := by
  simp only [withConsole, launch]
  cases platform.start w.files w.searchPath name args <;> rfl

theorem runShared_withConsole (w : Workspace) (o e : ByteArray) (name : String)
    (args : List String) :
    ∃ o' e', (w.withConsole o e).runShared platform name args =
      ((w.runShared platform name args).1,
        (w.runShared platform name args).2.withConsole o' e') := by
  rw [runShared, launch_withConsole, runShared]
  obtain ⟨outcome, w⟩ := w.launch platform name args
  cases outcome with
  | error fault => exact ⟨o, e, rfl⟩
  | ok finished => exact ⟨o ++ finished.output, e ++ finished.errors, rfl⟩

theorem runProgram_withConsole (w : Workspace) (o e : ByteArray) (name : String)
    (args : List String) :
    (w.withConsole o e).runProgram platform name args =
      ((w.runProgram platform name args).1,
        (w.runProgram platform name args).2.withConsole o e) := by
  rw [runProgram, launch_withConsole, runProgram]
  obtain ⟨outcome, w⟩ := w.launch platform name args
  cases outcome <;> rfl

theorem runShell_withConsole (w : Workspace) (o e : ByteArray) (command : String) :
    ∃ o' e', (w.withConsole o e).runShell platform command =
      ((w.runShell platform command).1, (w.runShell platform command).2.withConsole o' e') := by
  obtain ⟨o', e', shared⟩ := w.runShared_withConsole platform o e "sh" ["-c", command]
  refine ⟨o', e', ?_⟩
  rw [runShell, shared, runShell]
  obtain ⟨outcome, w⟩ := w.runShared platform "sh" ["-c", command]
  cases outcome <;> rfl

theorem install_withConsole (w : Workspace) (o e : ByteArray) (name : String) :
    ∃ o' e', (w.withConsole o e).install platform name =
      ((w.install platform name).1, (w.install platform name).2.withConsole o' e') := by
  -- Which program installs packages is decided before anything is shown.
  have files : (w.withConsole o e).files = w.files := rfl
  have searchPath : (w.withConsole o e).searchPath = w.searchPath := rfl
  simp only [install, files, searchPath]
  cases packageManagers.find? fun manager =>
      (platform.find w.files w.searchPath manager.1).isOk with
  | none => exact ⟨o, e, rfl⟩
  | some manager =>
      obtain ⟨o', e', shared⟩ :=
        w.runShared_withConsole platform o e manager.1 (manager.2 ++ [name])
      refine ⟨o', e', ?_⟩
      simp only [shared]
      obtain ⟨outcome, w⟩ := w.runShared platform manager.1 (manager.2 ++ [name])
      cases outcome with
      | error fault => rfl
      | ok ending =>
          cases ending with
          | signalled signal => rfl
          | exited status =>
              by_cases zero : status = 0
              · subst zero
                rfl
              · simp [zero]

/-- A workspace answers every request without a look at what it has shown. -/
theorem answer_withConsole (w : Workspace) (o e : ByteArray) (r : Request) :
    ∃ o' e', (w.withConsole o e).answer platform r =
      ((w.answer platform r).1, (w.answer platform r).2.withConsole o' e') := by
  cases r with
  | print text => exact ⟨o ++ (text ++ "\n").toUTF8, e, rfl⟩
  | complain text => exact ⟨o, e ++ (text ++ "\n").toUTF8, rfl⟩
  | runProgram program args => exact ⟨o, e, w.runProgram_withConsole platform o e program args⟩
  | runShell command => exact w.runShell_withConsole platform o e command
  | installPackage name => exact w.install_withConsole platform o e name
  | pathExists path => exact ⟨o, e, rfl⟩
  | isDirectory path => exact ⟨o, e, rfl⟩
  | load path => exact ⟨o, e, rfl⟩
  | store path content => exact ⟨o, e, rfl⟩
  | createDirectories path => exact ⟨o, e, rfl⟩
  | removeDirectory path => exact ⟨o, e, rfl⟩
  | copyDirectory source target => exact ⟨o, e, rfl⟩
  | listDirectory path => exact ⟨o, e, rfl⟩
  | findProgram name => exact ⟨o, e, rfl⟩
  | clock => exact ⟨o, e, rfl⟩
  | stopwatch => exact ⟨o, e, rfl⟩

theorem ignoresConsole : (host platform).IgnoresConsole SameButConsole where
  refl w := ⟨w.output, w.errors, rfl⟩
  reply {w _} same r := by
    obtain ⟨o, e, rfl⟩ := same
    obtain ⟨o', e', answered⟩ := w.answer_withConsole platform o e r
    exact (congrArg Prod.fst answered).symm
  next {w _} same r := by
    obtain ⟨o, e, rfl⟩ := same
    obtain ⟨o', e', answered⟩ := w.answer_withConsole platform o e r
    exact ⟨o', e', congrArg Prod.snd answered⟩
  symm {w _} same := by
    obtain ⟨o, e, rfl⟩ := same
    exact ⟨w.output, w.errors, rfl⟩
  trans first second := by
    obtain ⟨o, e, rfl⟩ := first
    obtain ⟨o', e', rfl⟩ := second
    exact ⟨o', e', rfl⟩
  shown r w console := by
    cases r with
    | print text => exact ⟨w.output, w.errors, rfl⟩
    | complain text => exact ⟨w.output, w.errors, rfl⟩
    | _ => cases console

end Workspace

end BuildScript
