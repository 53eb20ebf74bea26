import BuildScript.Action.OfDirective

/-!
# What a directive is about

Most directives that configure a build are about one setting each: the variables, the flags, the
libraries, the directories of header files, the directories of libraries, the verbose switch or the
compiler. `Directive.concern?` says which, and `Concern.get` and `Concern.set` read and write the
setting.

Such a directive is about its setting alone (`isAbout_action`): it makes no request, its result and
the new value of the setting depend on the old value and on nothing else, and the other settings
keep theirs.
-/

namespace BuildScript

open Script

/-- A setting that directives are about. -/
inductive Concern where
  | definitions
  | flags
  | libraries
  | includeDirs
  | libraryPaths
  | verbosity
  | compiler
  deriving DecidableEq, Repr

/-- The setting that a directive is about, if it is about one alone. -/
def Directive.concern? : Directive → Option Concern
  | defineVariable | removeVariable => some .definitions
  | addFlag | removeFlag | addMemorySanitizer | addCompilerWarnings => some .flags
  | defineLibrary => some .libraries
  | defineInclude => some .includeDirs
  | defineLibraryPath => some .libraryPaths
  | enableVerbose => some .verbosity
  | winCompiler => some .compiler
  | _ => none

namespace Concern

/-- What values a setting has. -/
@[reducible] def Value : Concern → Type
  | definitions => OrderedMap String
  | flags | libraries | includeDirs | libraryPaths => List String
  | verbosity => Bool
  | compiler => String

/-- The value of a setting. -/
def get : (c : Concern) → Settings → c.Value
  | definitions, s => s.definitions
  | flags, s => s.flags
  | libraries, s => s.libraries
  | includeDirs, s => s.includeDirs
  | libraryPaths, s => s.libraryPaths
  | verbosity, s => s.verbose
  | compiler, s => s.compiler

/-- The settings with another value of one of them. -/
def set : (c : Concern) → c.Value → Settings → Settings
  | definitions, value, s => { s with definitions := value }
  | flags, value, s => { s with flags := value }
  | libraries, value, s => { s with libraries := value }
  | includeDirs, value, s => { s with includeDirs := value }
  | libraryPaths, value, s => { s with libraryPaths := value }
  | verbosity, value, s => { s with verbose := value }
  | compiler, value, s => { s with compiler := value }

@[simp] theorem get_set (c : Concern) (v : c.Value) (s : Settings) : c.get (c.set v s) = v := by
  cases c <;> rfl

@[simp] theorem set_get (c : Concern) (s : Settings) : c.set (c.get s) s = s := by
  cases c <;> rfl

/-- Setting one value leaves the others alone. -/
theorem get_set_of_ne {c d : Concern} (different : d ≠ c) (v : c.Value) (s : Settings) :
    d.get (c.set v s) = d.get s := by
  cases c <;> cases d <;> first | rfl | exact absurd rfl different

@[simp] theorem linkFlags_set (c : Concern) (v : c.Value) (s : Settings) :
    (c.set v s).linkFlags = s.linkFlags := by
  cases c <;> rfl

@[simp] theorem buildDir_set (c : Concern) (v : c.Value) (s : Settings) :
    (c.set v s).buildDir = s.buildDir := by
  cases c <;> rfl

end Concern

/-- Settings are the same if they have the same values of what directives are about, and the rest is
the same. -/
theorem Settings.eq_of_get_eq {s t : Settings} (values : ∀ c : Concern, c.get s = c.get t)
    (linkFlags : s.linkFlags = t.linkFlags) (buildDir : s.buildDir = t.buildDir) : s = t := by
  have definitions : s.definitions = t.definitions := values .definitions
  have flags : s.flags = t.flags := values .flags
  have libraries : s.libraries = t.libraries := values .libraries
  have includeDirs : s.includeDirs = t.includeDirs := values .includeDirs
  have libraryPaths : s.libraryPaths = t.libraryPaths := values .libraryPaths
  have verbose : s.verbose = t.verbose := values .verbosity
  have compiler : s.compiler = t.compiler := values .compiler
  obtain ⟨_, _, _, _, _, _, _, _, _⟩ := s
  obtain ⟨_, _, _, _, _, _, _, _, _⟩ := t
  simp_all

namespace Action

variable {c : Concern}

/-- What an action about `c` does, given what it makes of the value of `c`. -/
def through (c : Concern) (effect : c.Value → Except CallError Flow × c.Value) (s : Settings) :
    Except CallError Flow × Settings :=
  ((effect (c.get s)).1, c.set (effect (c.get s)).2 s)

/-- The action makes no request, and all that it reads and writes is the value of `c`. -/
def IsAbout (c : Concern) (x : Action Flow) : Prop :=
  ∃ effect : c.Value → Except CallError Flow × c.Value,
    ∀ s, x.perform s = .done (through c effect s)

theorem IsAbout.wrongCount (call : Call) (n : Nat) : IsAbout c (Action.wrongCount call n) := by
  refine ⟨fun v => (.error (.arity (call.mismatch n)), v), fun s => ?_⟩
  rw [perform_wrongCount, through, Concern.set_get]

theorem IsAbout.change {f : Settings → Settings} (g : c.Value → c.Value)
    (changes : ∀ s, f s = c.set (g (c.get s)) s) : IsAbout c (Action.change f) := by
  refine ⟨fun v => (.ok .proceed, g v), fun s => ?_⟩
  have performed : (Action.change f).perform s = .done (.ok .proceed, f s) := rfl
  rw [performed, changes, through]

theorem isAbout_changeBy {f : Settings → String → Settings} (g : c.Value → String → c.Value)
    (changes : ∀ s text, f s text = c.set (g (c.get s) text) s) (call : Call) :
    IsAbout c (changeBy f call) := by
  unfold changeBy
  split
  · rename_i text _
    exact .change (g · text) fun s => changes s text
  · exact .wrongCount call 1

theorem isAbout_defineVariable (call : Call) : IsAbout .definitions (defineVariable call) := by
  unfold defineVariable
  split
  · rename_i name value _
    exact .change (c := .definitions) (OrderedMap.insert · name value) fun _ => rfl
  · exact .wrongCount call 2

/-- A removal is reported by the value that it changes. -/
theorem isAbout_remove {f : Settings → String → Bool × Settings} {missing : String → String}
    (found : c.Value → String → Bool) (g : c.Value → String → c.Value)
    (removes : ∀ s name, f s name = (found (c.get s) name, c.set (g (c.get s) name) s))
    (call : Call) : IsAbout c (remove f missing call) := by
  unfold remove
  split
  · rename_i name _
    refine ⟨fun v => (if found v name then .ok .proceed else .error (.failed (missing name)),
      g v name), fun s => ?_⟩
    simp only [perform_bind, perform_get, perform_set, Plan.done_bind, resume_ok, removes, through]
    split <;> rfl
  · exact .wrongCount call 1

theorem foldl_addFlag (flags : List String) (s : Settings) :
    flags.foldl Settings.addFlag s = { s with flags := s.flags ++ flags } := by
  induction flags generalizing s with
  | nil => simp
  | cons flag flags ih =>
      rw [List.foldl_cons, ih]
      simp [Settings.addFlag]

theorem isAbout_addFlags (flags : List String) : IsAbout .flags (addFlags flags) :=
  .change (c := .flags) (· ++ flags) (foldl_addFlag flags)

/-- A directive that is about a setting is about that setting alone. -/
theorem isAbout_action (script : Path) (call : Call) {d : Directive}
    (concern : d.concern? = some c) : IsAbout c (d.action script call) := by
  cases d with
  | defineVariable =>
      cases concern
      exact isAbout_defineVariable call
  | removeVariable =>
      cases concern
      exact isAbout_remove (c := .definitions)
        (fun definitions name => (definitions.erase name).size != definitions.size)
        OrderedMap.erase (fun _ _ => rfl) call
  | addFlag =>
      cases concern
      exact isAbout_changeBy (c := .flags) (fun flags flag => flags ++ [flag]) (fun _ _ => rfl) call
  | removeFlag =>
      cases concern
      exact isAbout_remove (c := .flags)
        (fun flags flag => (flags.filter (· != flag)).length != flags.length)
        (fun flags flag => flags.filter (· != flag)) (fun _ _ => rfl) call
  | addMemorySanitizer =>
      cases concern
      exact isAbout_addFlags _
  | addCompilerWarnings =>
      cases concern
      exact isAbout_addFlags _
  | defineLibrary =>
      cases concern
      exact isAbout_changeBy (c := .libraries) (fun names name => names ++ [name])
        (fun _ _ => rfl) call
  | defineInclude =>
      cases concern
      exact isAbout_changeBy (c := .includeDirs) (fun dirs dir => dirs ++ [dir])
        (fun _ _ => rfl) call
  | defineLibraryPath =>
      cases concern
      exact isAbout_changeBy (c := .libraryPaths) (fun paths path => paths ++ [path])
        (fun _ _ => rfl) call
  | enableVerbose =>
      cases concern
      exact .change (c := .verbosity) (fun _ => true) fun _ => rfl
  | winCompiler =>
      cases concern
      exact .change (c := .compiler) (fun _ => Settings.windowsCompiler) fun _ => rfl
  | _ => cases concern

end Action

end BuildScript
