import BuildScript.Host.Rehearsal
import BuildScript.Proofs.Action.Verbosity
import BuildScript.Proofs.Host.Shown
import BuildScript.Proofs.Session.Comparison
import BuildScript.Proofs.Vocabulary
import Mathlib.Data.List.Forall2

/-!
# Verbose runs

Whether a session begins verbose makes no difference to a script but for what is printed on standard
output (`runSource_setVerbose`). The script may set the switch itself, and from there on the runs do
not differ at all. It must not write the build report, which shows the switch.
-/

namespace BuildScript.Session

open Script

variable {σ : Type}

/-- The session with verbose output on or off. -/
def setVerbose (s : Session) (verbose : Bool) : Session :=
  { s with settings := s.settings.setVerbose verbose }

/-- The call comes to the same result, and the sessions still differ at most in the switch. -/
theorem dispatch_setVerbose {s : Session} (standard : s.vocabulary = .standard) (verbose : Bool)
    {call : Call} (other : call.name ≠ Directive.generateBuildReport.name) :
    (s.dispatch call).Tandem ((s.setVerbose verbose).dispatch call) fun t outcome t' outcome' =>
      outcome'.1 = outcome.1 ∧
        ((∃ verbose', outcome'.2 = outcome.2.setVerbose verbose') ∧
          outcome.2.vocabulary = .standard) ∧
        unprinted t' = unprinted t := by
  have same : (s.setVerbose verbose).vocabulary = .standard := standard
  rw [dispatch, dispatch, same, standard]
  cases bound : Vocabulary.standard.get? call.name with
  | none => exact .done ⟨rfl, ⟨⟨verbose, rfl⟩, standard⟩, rfl⟩
  | some binding =>
      obtain ⟨d, name, rfl⟩ := (Vocabulary.standard_get?_iff _ _).mp bound
      have unlike : d ≠ .generateBuildReport := by
        rintro rfl
        exact other name.symm
      dsimp only
      split
      · have actions := Action.apart_action s.script call unlike s.settings
          (s.settings.setVerbose verbose) ⟨verbose, rfl⟩
        refine act_tandem actions ?_
        rintro t outcome t' outcome' ⟨quiet, result, verbose', kept⟩
        exact ⟨result, ⟨⟨verbose', by rw [kept]; rfl⟩, standard⟩, quiet⟩
      · exact .done ⟨rfl, ⟨⟨verbose, rfl⟩, standard⟩, rfl⟩

/-- Runs of a script are compared whose sessions differ at most in the verbose switch. -/
def switching : Comparison where
  sessions s s' := (∃ verbose, s' = s.setVerbose verbose) ∧ s.vocabulary = .standard
  calls call call' := call' = call ∧ call.name ≠ Directive.generateBuildReport.name
  requests _ t t' := unprinted t' = unprinted t
  selection := by
    rintro s _ ⟨⟨verbose, rfl⟩, -⟩
    rfl
  observed := by
    rintro s _ ⟨⟨verbose, rfl⟩, standard⟩ line
    exact ⟨⟨verbose, rfl⟩, standard⟩
  silent _ := rfl
  dispatched := by
    rintro s _ call _ ⟨⟨verbose, rfl⟩, standard⟩ ⟨rfl, other⟩
    exact dispatch_setVerbose standard verbose other

/-- Two sessions that differ at most in the verbose switch run a script to the same summary, to
states that are alike, and to sessions that again differ at most in the switch. They make the same
requests but for the lines that they print, so the same complaints too. -/
theorem runSource_setVerbose (host : Host σ) {alike : σ → σ → Prop}
    (deaf : host.IgnoresConsole alike) (s : Session) (standard : s.vocabulary = .standard)
    (verbose : Bool) (w : σ) (source : String)
    (unreported : ∀ call, .call call ∈ (parse source).map Prod.snd →
      call.name ≠ Directive.generateBuildReport.name) :
    let one := (s.runSource source).run host w
    let two := ((s.setVerbose verbose).runSource source).run host w
    two.1.1 = one.1.1 ∧ unprinted (calls two.2.1) = unprinted (calls one.2.1) ∧
      alike one.2.2 two.2.2 ∧ ∃ verbose', two.1.2 = one.1.2.setVerbose verbose' := by
  intro one two
  have beside : List.Forall₂ (LineBeside switching.calls) ((parse source).map Prod.snd)
      ((parse source).map Prod.snd) := by
    refine List.forall₂_same.mpr fun line member => ?_
    cases line with
    | call call => exact .call ⟨rfl, unreported call member⟩
    | blank => exact .other rfl
    | comment => exact .other rfl
    | label name => exact .other rfl
    | malformed error => exact .other rfl
  obtain ⟨summary, ⟨sessions, -⟩, states, entries⟩ :=
    switching.runSource_beside deaf beside ⟨⟨verbose, rfl⟩, standard⟩ (deaf.refl w)
  refine ⟨summary, ?_, states, sessions⟩
  rw [runSource_requests, runSource_requests]
  refine EntryBeside.flatMap_events (fun t t' => unprinted t' = unprinted t) (fun _ => rfl) ?_ id
    entries
  intro t t' u u' first second
  rw [unprinted_append, unprinted_append, first, second]

/-- A rehearsal in which the command `false` fails. -/
def failingCommand : Rehearsal :=
  ⟨.empty, [], .empty, .empty, .ofList [("false", 1)], .empty, "0", []⟩

/-- A script that puts the switch back after two calls that look at it. -/
def resettingScript : String :=
  "compile(a.c, a)\ns_command(false)\nreset_settings()\ncompile(b.c, b)\n"

/-- The verbose session prints command lines until the script resets the settings. -/
theorem runSource_setVerbose_reset :
    let s := start ⟨"build.samba"⟩ (.ofTargets [])
    let one := (s.runSource resettingScript).run Rehearsal.host failingCommand
    let two := ((s.setVerbose true).runSource resettingScript).run Rehearsal.host failingCommand
    two.1.1 = one.1.1 ∧ two.1 = (⟨3, 0, 1, none⟩, s) ∧
      unprinted (calls two.2.1) = unprinted (calls one.2.1) ∧
      (∃ verbose, two.1.2 = one.1.2.setVerbose verbose) ∧
      outline one.2.1 =
        [(.print, "Compiling a.c -> a"), (.runProgram, "gcc"), (.runShell, "false"),
          (.complain, "line 2: Command `false` exited with status 1"),
          (.print, "Compiling b.c -> b"), (.runProgram, "gcc")] ∧
      outline two.2.1 =
        [(.print, "gcc -o a a.c"), (.runProgram, "gcc"), (.print, "$ false"), (.runShell, "false"),
          (.complain, "line 2: Command `false` exited with status 1"),
          (.print, "Compiling b.c -> b"), (.runProgram, "gcc")] := by
  have said : (parse resettingScript).map Prod.snd = [.call ⟨"compile", ["a.c", "a"]⟩,
      .call ⟨"s_command", ["false"]⟩, .call ⟨"reset_settings", []⟩,
      .call ⟨"compile", ["b.c", "b"]⟩] := by decide +kernel
  have unreported : ∀ call, .call call ∈ (parse resettingScript).map Prod.snd →
      call.name ≠ Directive.generateBuildReport.name := by
    rw [said]
    intro call member
    simp only [List.mem_cons, Line.call.injEq, List.not_mem_nil, or_false] at member
    rcases member with rfl | rfl | rfl | rfl <;> decide
  obtain ⟨summary, requests, -, sessions⟩ := runSource_setVerbose Rehearsal.host
    Rehearsal.ignoresConsole (start ⟨"build.samba"⟩ (.ofTargets [])) rfl true failingCommand
    resettingScript unreported
  refine ⟨summary, ?_, requests, sessions, ?_, ?_⟩
  · decide +kernel
  · decide +kernel
  · decide +kernel

end BuildScript.Session
