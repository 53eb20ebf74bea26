import BuildScript.Proofs.Action.CleanFailure
import BuildScript.Proofs.Path
import BuildScript.Proofs.Settings.Report
import BuildScript.Proofs.Text.Trimming

/-!
# Actions store single lines

A call without newlines in its arguments leaves none in the settings. What it stores are its
arguments, texts of its own, and words that the package database printed, and a word has no blank in
it, which a newline is.

`StoresLines` is closed under what actions are made of. Most directives store nothing
(`Inert.storesLines`), and the result for every directive is `storesLines_action`.
-/

namespace BuildScript.Action

open Script

variable {α β : Type}

/-- Settings whose texts are single lines keep that when the action is carried out. -/
def StoresLines (x : Action α) : Prop :=
  ∀ s : Settings, s.SingleLined → (x.perform s).Ensures fun _ outcome => outcome.2.SingleLined

theorem Inert.storesLines {x : Action α} (inert : Inert x) : StoresLines x := by
  intro s single
  refine (inert.settings s).mono fun _ outcome same => ?_
  rw [same]
  exact single

theorem Keeps.storesLines {x : Action α} (kept : Keeps x) : StoresLines x :=
  (Inert.keeps kept).storesLines

theorem StoresLines.bind {x : Action α} {f : α → Action β} (first : StoresLines x)
    (second : ∀ a, StoresLines (f a)) : StoresLines (x >>= f) := by
  intro s single
  rw [perform_bind]
  refine (first s single).bind fun _ outcome single => ?_
  obtain ⟨result, next⟩ := outcome
  cases result with
  | ok a => exact second a next single
  | error e => exact single

/-- A step that is taken on a condition, and what follows it in either case. -/
theorem StoresLines.optional {c : Prop} [Decidable c] {x : Action Unit} {f : Unit → Action β}
    (step : StoresLines x) (rest : StoresLines (f ())) :
    StoresLines (if c then x >>= f else f ()) := by
  split
  · exact step.bind fun _ => rest
  · exact rest

theorem StoresLines.modify {f : Settings → Settings}
    (keeps : ∀ s : Settings, s.SingleLined → (f s).SingleLined) :
    StoresLines (modify f : Action PUnit) :=
  fun s single => keeps s single

theorem StoresLines.change {f : Settings → Settings}
    (keeps : ∀ s : Settings, s.SingleLined → (f s).SingleLined) : StoresLines (Action.change f) :=
  (StoresLines.modify keeps).bind fun _ => (Keeps.pure Flow.proceed).storesLines

/-! ## The directives that configure -/

section

variable {call : Call} (lines : ∀ arg ∈ call.args, '\n' ∉ arg.toList)

include lines

theorem storesLines_changeBy (operation : String → Settings.Change)
    (stores : ∀ text, (operation text).texts = [text]) :
    StoresLines (changeBy (fun s text => (operation text).apply s) call) := by
  unfold changeBy
  split
  · rename_i text args
    have own : ∀ stored ∈ (operation text).texts, '\n' ∉ stored.toList := by
      rw [stores, ← args]
      exact lines
    exact .change fun s single => single.apply _ own
  · exact (Inert.refuses call 1).storesLines

theorem storesLines_defineVariable : StoresLines (defineVariable call) := by
  unfold defineVariable
  split
  · rename_i name value args
    have own : ∀ text ∈ [name, value], '\n' ∉ text.toList := args ▸ lines
    exact .change fun s single => single.apply (.defineVariable name value) own
  · exact (Inert.refuses call 2).storesLines

theorem storesLines_setBuildDirectory : StoresLines (setBuildDirectory call) := by
  unfold setBuildDirectory
  split
  · rename_i dir args
    have line : '\n' ∉ dir.toList := lines dir (by rw [args]; exact List.mem_singleton_self dir)
    have own : ∀ text ∈ [(Path.ofString dir).text], '\n' ∉ text.toList :=
      List.forall_mem_singleton.mpr (Path.newline_not_mem_ofString line)
    have chosen : StoresLines (do
        modify (·.setBuildDir (Path.ofString dir))
        Pure.pure Flow.proceed : Action Flow) :=
      .change fun s single => single.apply (.setBuildDir (Path.ofString dir)) own
    refine (Keeps.attempt _ _).storesLines.bind fun _ => ?_
    refine Keeps.get.storesLines.bind fun settings => ?_
    exact (Keeps.print _).storesLines.optional chosen
  · exact (Inert.refuses call 1).storesLines

end

section

variable (call : Call)

/-- What is removed leaves nothing behind. -/
theorem storesLines_remove {f : Settings → String → Bool × Settings} (missing : String → String)
    (operation : String → Settings.Change) (stores : ∀ name, (operation name).texts = [])
    (applies : ∀ s name, (f s name).2 = (operation name).apply s) :
    StoresLines (remove f missing call) := by
  unfold remove
  split
  · rename_i name _
    intro s single
    have kept : (f s name).2.SingleLined := by
      rw [applies]
      exact single.apply _ (by rw [stores]; nofun)
    rw [perform_bind, perform_get, Plan.done_bind, resume_ok]
    dsimp only
    rw [perform_bind, perform_set, Plan.done_bind, resume_ok]
    cases (f s name).1 with
    | true => exact kept
    | false => exact kept
  · exact (Inert.refuses call 1).storesLines

theorem singleLined_foldl (operation : String → Settings.Change)
    (stores : ∀ text, (operation text).texts = [text]) {texts : List String}
    (lines : ∀ text ∈ texts, '\n' ∉ text.toList) {s : Settings} (single : s.SingleLined) :
    (texts.foldl (fun s text => (operation text).apply s) s).SingleLined := by
  induction texts generalizing s with
  | nil => exact single
  | cons text texts ih =>
      obtain ⟨first, others⟩ := List.forall_mem_cons.mp lines
      have own : ∀ stored ∈ (operation text).texts, '\n' ∉ stored.toList := by
        rw [stores]
        exact List.forall_mem_singleton.mpr first
      exact ih others (single.apply _ own)

theorem storesLines_addFlags {flags : List String} (lines : ∀ flag ∈ flags, '\n' ∉ flag.toList) :
    StoresLines (addFlags flags) :=
  .change fun _ single => singleLined_foldl .addFlag (fun _ => rfl) lines single

/-- The words that the package database prints hold no newline, and asking for them stores
nothing. -/
theorem packageArguments_lines (query package : String) (s : Settings) :
    ((packageArguments query package).perform s).Ensures fun _ outcome =>
      outcome.2 = s ∧ ∀ words, outcome.1 = .ok words → ∀ word ∈ words, '\n' ∉ word.toList := by
  have newline : Text.isBlank '\n' = true := by decide
  unfold packageArguments
  rw [perform_bind]
  refine (Keeps.attempt _ _ s).bind fun _ outcome kept => ?_
  obtain ⟨result, next⟩ := outcome
  obtain ⟨rfl, -⟩ := kept
  cases result with
  | error e => exact ⟨rfl, nofun⟩
  | ok completion =>
      by_cases failed : (completion.status != 0) = true
      · simp only [resume_ok, if_pos failed]
        exact ⟨rfl, nofun⟩
      · simp only [resume_ok, if_neg failed]
        refine ⟨rfl, ?_⟩
        rintro words ⟨⟩ word member inside
        rw [Text.not_isBlank_of_mem_words member _ inside] at newline
        exact Bool.false_ne_true newline

/-- Words of the package database are stored one by one. -/
theorem storesLines_packageArguments (query package : String) {f : List String → Action Flow}
    (rest : ∀ words, (∀ word ∈ words, '\n' ∉ word.toList) → StoresLines (f words)) :
    StoresLines (packageArguments query package >>= f) := by
  intro s single
  rw [perform_bind]
  refine (packageArguments_lines query package s).bind fun _ outcome printed => ?_
  obtain ⟨result, next⟩ := outcome
  obtain ⟨rfl, lines⟩ := printed
  cases result with
  | ok words => exact rest words (lines words rfl) next single
  | error e => exact single

theorem storesLines_findLibrary : StoresLines (findLibrary call) := by
  unfold findLibrary
  split
  · refine storesLines_packageArguments _ _ fun words lines => ?_
    have stored : StoresLines (modify fun s => words.foldl Settings.addLinkFlag s : Action PUnit) :=
      .modify fun _ single => singleLined_foldl .addLinkFlag (fun _ => rfl) lines single
    exact stored.bind fun _ => ((Keeps.print _).bind fun _ => .pure _).storesLines
  · exact (Inert.refuses call 1).storesLines

theorem storesLines_findFlags : StoresLines (findFlags call) := by
  unfold findFlags
  split
  · refine storesLines_packageArguments _ _ fun words lines => ?_
    have stored : StoresLines (modify fun s => words.foldl Settings.addFlag s : Action PUnit) :=
      .modify fun _ single => singleLined_foldl .addFlag (fun _ => rfl) lines single
    exact stored.bind fun _ => (Keeps.pure Flow.proceed).storesLines
  · exact (Inert.refuses call 1).storesLines

end

/-! ## Every directive -/

/-- A call whose arguments are single lines stores single lines. -/
theorem storesLines_action (script : Path) {call : Call}
    (lines : ∀ arg ∈ call.args, '\n' ∉ arg.toList) (d : Directive) :
    StoresLines (d.action script call) := by
  cases d with
  | defineVariable => exact storesLines_defineVariable lines
  | removeVariable =>
      exact storesLines_remove (f := Settings.removeVariable) call _ .removeVariable (fun _ => rfl)
        fun _ _ => rfl
  | defineLibrary => exact storesLines_changeBy lines .addLibrary fun _ => rfl
  | defineInclude => exact storesLines_changeBy lines .addInclude fun _ => rfl
  | defineLibraryPath => exact storesLines_changeBy lines .addLibraryPath fun _ => rfl
  | addFlag => exact storesLines_changeBy lines .addFlag fun _ => rfl
  | removeFlag =>
      exact storesLines_remove (f := Settings.removeFlag) call _ .removeFlag (fun _ => rfl)
        fun _ _ => rfl
  | addMemorySanitizer => exact storesLines_addFlags (by decide +kernel)
  | addCompilerWarnings => exact storesLines_addFlags (by decide +kernel)
  | enableVerbose => exact .change fun s single => single.apply (.setVerbose true) nofun
  | winCompiler =>
      exact .change fun s single =>
        single.apply (.setCompiler Settings.windowsCompiler) (by decide +kernel)
  | resetSettings => exact .change fun _ _ => Settings.singleLined_initial
  | setBuildDirectory => exact storesLines_setBuildDirectory lines
  | findLibrary => exact storesLines_findLibrary call
  | findFlags => exact storesLines_findFlags call
  | _ => exact (inert_action script call rfl).storesLines

end BuildScript.Action
