import BuildScript.Proofs.Session.Ledger

/-!
# What a line leaves alone

Carrying out a call can change the settings of a session and nothing else: the script, the selection
and the vocabulary are those of before. So after some lines the selection is what observing these
lines makes of it (`takeLine_frame`), whatever the calls among them did.

The way there is open to any property of sessions: what each call keeps, each line keeps
(`takeLine_ensures`), and what each line keeps, a run keeps (`takeLines_ensures`).
-/

namespace BuildScript.Session

open Script

/-- The sessions differ at most in their settings. -/
def SameButSettings (s s' : Session) : Prop := ∃ settings, s' = { s with settings }

theorem SameButSettings.refl (s : Session) : SameButSettings s s := ⟨s.settings, rfl⟩

theorem SameButSettings.selection {s s' : Session} (same : SameButSettings s s') :
    s'.selection = s.selection := by
  obtain ⟨settings, rfl⟩ := same
  rfl

theorem SameButSettings.vocabulary {s s' : Session} (same : SameButSettings s s') :
    s'.vocabulary = s.vocabulary := by
  obtain ⟨settings, rfl⟩ := same
  rfl

/-! ## Along a run -/

section

variable {P : Session → Prop}

/-- A call that is not carried out changes nothing. -/
theorem dispatch_ensures {s : Session} (here : P s) {call : Call}
    (acts : ∀ d, (s.act d call).Ensures fun _ outcome => P outcome.2) :
    (s.dispatch call).Ensures fun _ outcome => P outcome.2 := by
  unfold dispatch
  split
  · exact here
  · split
    · exact acts _
    · exact here

/-- Only calls change anything, and a report of their errors does not. -/
theorem takeLine_ensures {s : Session} (here : P s) (number : Nat) {line : Line}
    (calls : ∀ call, line = .call call →
      (s.dispatch call).Ensures fun _ outcome => P outcome.2) :
    (s.takeLine number line).Ensures fun _ outcome => P outcome.2 := by
  cases line with
  | blank => exact here
  | comment => exact here
  | label name => exact here
  | malformed error =>
      by_cases active : s.selection.isActive = true
      · simp only [takeLine, if_pos active]
        exact fun _ => here
      · simp only [takeLine, if_neg active]
        exact here
  | call call =>
      by_cases active : s.selection.isActive = true
      · simp only [takeLine, if_pos active]
        refine (calls call rfl).bind fun _ outcome kept => ?_
        have any : (outcome.2.settle number outcome.1).Ensures fun _ _ => True :=
          .of_forall fun _ _ => trivial
        exact any.bind fun _ _ _ => kept
      · simp only [takeLine, if_neg active]
        exact here

/-- What every line keeps, a run keeps. -/
theorem takeLines_ensures {ls : List (Nat × Line)}
    (step : ∀ s : Session, ∀ numbered ∈ ls, P s →
      ((s.observe numbered.2).takeLine numbered.1 numbered.2).Ensures fun _ outcome => P outcome.2)
    {s : Session} (here : P s) (summary : Summary) :
    (s.takeLines summary ls).Ensures fun _ outcome => P outcome.2 := by
  induction ls generalizing s summary with
  | nil => exact here
  | cons first ls ih =>
      obtain ⟨number, line⟩ := first
      rw [takeLines_cons]
      refine (step s _ List.mem_cons_self here).bind fun _ outcome kept => ?_
      split
      · exact kept
      · exact ih (fun s numbered member => step s numbered (List.mem_cons_of_mem _ member)) kept _

end

/-! ## All but the settings -/

theorem act_frame (s : Session) (directive : Directive) (call : Call) :
    (s.act directive call).Ensures fun _ outcome => SameButSettings s outcome.2 := by
  have any : ((directive.action s.script call).perform s.settings).Ensures fun _ _ => True :=
    .of_forall fun _ _ => trivial
  exact any.bind fun _ outcome _ => ⟨outcome.2, rfl⟩

theorem dispatch_frame (s : Session) (call : Call) :
    (s.dispatch call).Ensures fun _ outcome => SameButSettings s outcome.2 :=
  dispatch_ensures (.refl s) fun d => s.act_frame d call

theorem takeLine_frame (s : Session) (number : Nat) (line : Line) :
    (s.takeLine number line).Ensures fun _ outcome => SameButSettings s outcome.2 :=
  takeLine_ensures (.refl s) number fun call _ => s.dispatch_frame call

/-- Lines do not touch the vocabulary. -/
theorem takeLines_vocabulary (s : Session) (summary : Summary) (ls : List (Nat × Line)) :
    (s.takeLines summary ls).Ensures fun _ outcome => outcome.2.vocabulary = s.vocabulary := by
  refine takeLines_ensures (P := fun t => t.vocabulary = s.vocabulary) ?_ rfl summary
  intro t numbered _ kept
  exact (takeLine_frame _ _ _).mono fun _ _ same => same.vocabulary.trans kept

end BuildScript.Session
