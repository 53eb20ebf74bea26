import BuildScript.Host.Rehearsal
import BuildScript.Proofs.Action.QuietCompile
import BuildScript.Proofs.Host.Shown
import BuildScript.Proofs.Session.Comparison
import BuildScript.Proofs.Session.Frame
import BuildScript.Proofs.Vocabulary

/-!
# Scripts made quiet

A script that compiles quietly does the same build as the one that does not. On every host that
ignores the console, making calls of `compile` into calls of `compile_s` changes neither the summary
nor the session nor what is asked of the host, and only leaves out lines on the console
(`runSource_quieted`). What is left out is not an error: every report of a line is still there, and
so is what a failing compiler has printed on standard error.
-/

namespace BuildScript.Session

open Script

variable {σ : Type}

/-- The second call is the first, or a compilation made quiet. -/
inductive Quieted : Call → Call → Prop where
  | same (call : Call) : Quieted call call
  | quiet (source output : String) :
      Quieted ⟨Directive.compile.name, [source, output]⟩
        ⟨Directive.compileSilently.name, [source, output]⟩

/-- The two calls come to the same result and leave the same session. -/
theorem dispatch_quieted {s : Session} (standard : s.vocabulary = .standard) {call call' : Call}
    (quieted : Quieted call call') :
    (s.dispatch call).Tandem (s.dispatch call') fun t outcome t' outcome' =>
      outcome' = outcome ∧ outcome.2.vocabulary = .standard ∧
        Quieter ((Deed.dispatched t outcome.1).verdict = .failed) t t' := by
  cases quieted with
  | same call =>
      refine (s.dispatch_frame call).tandem fun t outcome same => ⟨rfl, ?_, .refl _⟩
      rw [same.vocabulary, standard]
  | quiet source output =>
      rw [dispatch, dispatch, standard, Vocabulary.standard_get?_name,
        Vocabulary.standard_get?_name]
      have actions :
          ((Directive.compile.action s.script ⟨Directive.compile.name, [source, output]⟩).perform
            s.settings).Tandem
          ((Directive.compileSilently.action s.script
            ⟨Directive.compileSilently.name, [source, output]⟩).perform s.settings) _ :=
        Action.compile_quiet Directive.compile.name Directive.compileSilently.name source output
      refine act_tandem actions ?_
      rintro t ⟨result, settings⟩ t' _ ⟨rfl, quieter⟩
      refine ⟨rfl, standard, quieter.mono fun failed => ?_⟩
      cases result with
      | error e => exact ⟨e, rfl⟩
      | ok flow => cases flow <;> cases failed

/-- Scripts are compared that differ in quiet compilations. -/
def quieting : Comparison where
  sessions s s' := s' = s ∧ s.vocabulary = .standard
  calls := Quieted
  requests verdict := Quieter (verdict = .failed)
  selection := by
    rintro s _ ⟨rfl, -⟩
    rfl
  observed := by
    rintro s _ ⟨rfl, standard⟩ line
    exact ⟨rfl, standard⟩
  silent verdict := .refl []
  dispatched := by
    rintro s _ call call' ⟨rfl, standard⟩ quieted
    exact (dispatch_quieted standard quieted).mono fun t outcome t' outcome' ended =>
      ⟨congrArg Prod.fst ended.1, ⟨congrArg Prod.snd ended.1, ended.2.1⟩, ended.2.2⟩

/-- To turn calls of `compile` into calls of `compile_s` with the same arguments does not change
what a script does: the same summary and session, states that are alike, and the same requests,
except that some lines are not shown on the console. Line by line, the second run has the same
verdict, the same report and, if the line failed, the same lines on standard error. -/
theorem runSource_quieted (host : Host σ) {alike : σ → σ → Prop} (deaf : host.IgnoresConsole alike)
    (s : Session) (standard : s.vocabulary = .standard) (w : σ) {first second : String}
    (quieted : List.Forall₂ (LineBeside Quieted) ((parse first).map Prod.snd)
      ((parse second).map Prod.snd)) :
    let one := (s.runSource first).run host w
    let two := (s.runSource second).run host w
    two.1 = one.1 ∧ alike one.2.2 two.2.2 ∧
      unshown (calls two.2.1) = unshown (calls one.2.1) ∧
      (calls two.2.1).Sublist (calls one.2.1) ∧
      List.Forall₂ (EntryBeside fun verdict => Quieter (verdict = .failed))
        (s.ledger host w (parse first)) (s.ledger host w (parse second)) := by
  intro one two
  obtain ⟨summary, ⟨session, -⟩, states, entries⟩ :=
    quieting.runSource_beside deaf quieted ⟨rfl, standard⟩ (deaf.refl w)
  have requests : Quieter False (calls one.2.1) (calls two.2.1) := by
    rw [runSource_requests, runSource_requests]
    exact EntryBeside.flatMap_events (Quieter False) .refl .append
      (fun quieter => quieter.mono False.elim) entries
  exact ⟨Prod.ext summary session, states, requests.unshown, requests.sublist, entries⟩

/-- A rehearsal whose compiler warns in its first run and fails in its second. -/
def fussyCompiler : Rehearsal :=
  ⟨.empty, [], .empty, .ofList [("gcc", [⟨"a.c: ok\n", "a.c: unused x\n", 0⟩,
    ⟨"b.c: 1 error\n", "b.c: no main\n", 1⟩])], .empty, .empty, "0", []⟩

/-- A script with two compilations. -/
def loudScript : String := "compile(a.c, a)\nprintfn(half)\ncompile(b.c, b)\n"

/-- The same script made quiet. -/
def quietScript : String := "compile_s(a.c, a)\nprintfn(half)\ncompile_s(b.c, b)\n"

/-- Of the second compilation only the error is shown, and of the first one nothing. -/
theorem runSource_quieted_fussy :
    let s := start ⟨"build.samba"⟩ (.ofTargets [])
    let one := (s.runSource loudScript).run Rehearsal.host fussyCompiler
    let two := (s.runSource quietScript).run Rehearsal.host fussyCompiler
    two.1 = one.1 ∧ two.1 = (⟨2, 0, 1, none⟩, s) ∧
      (calls two.2.1).Sublist (calls one.2.1) ∧
      outline one.2.1 =
        [(.print, "Compiling a.c -> a"), (.runProgram, "gcc"), (.print, "a.c: ok"),
          (.complain, "a.c: unused x"), (.print, "half"), (.print, "Compiling b.c -> b"),
          (.runProgram, "gcc"), (.print, "b.c: 1 error"), (.complain, "b.c: no main"),
          (.complain, "line 3: Compilation of b.c failed with exit code 1")] ∧
      outline two.2.1 =
        [(.runProgram, "gcc"), (.print, "half"), (.runProgram, "gcc"), (.complain, "b.c: no main"),
          (.complain, "line 3: Compilation of b.c failed with exit code 1")] := by
  have loud : (parse loudScript).map Prod.snd =
      [.call ⟨"compile", ["a.c", "a"]⟩, .call ⟨"printfn", ["half"]⟩,
        .call ⟨"compile", ["b.c", "b"]⟩] := by decide +kernel
  have quiet : (parse quietScript).map Prod.snd =
      [.call ⟨"compile_s", ["a.c", "a"]⟩, .call ⟨"printfn", ["half"]⟩,
        .call ⟨"compile_s", ["b.c", "b"]⟩] := by decide +kernel
  have quieted : List.Forall₂ (LineBeside Quieted) ((parse loudScript).map Prod.snd)
      ((parse quietScript).map Prod.snd) := by
    rw [loud, quiet]
    exact .cons (.call (.quiet "a.c" "a")) (.cons (.call (.same _))
      (.cons (.call (.quiet "b.c" "b")) .nil))
  obtain ⟨outcome, -, -, sublist, -⟩ := runSource_quieted Rehearsal.host
    Rehearsal.ignoresConsole (start ⟨"build.samba"⟩ (.ofTargets [])) rfl fussyCompiler quieted
  refine ⟨outcome, ?_, sublist, ?_, ?_⟩
  · decide +kernel
  · decide +kernel
  · decide +kernel

end BuildScript.Session
