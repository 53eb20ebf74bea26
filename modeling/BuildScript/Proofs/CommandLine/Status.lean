import BuildScript.CommandLine.Program
import BuildScript.CommandLine.Reader
import BuildScript.Host.Workspace
import BuildScript.Proofs.Build.Fatal
import BuildScript.Proofs.Session.Stop

/-!
# Exit statuses

What the caller of the program learns from its exit status when it runs a script. A script that
cannot be used gives 1, and it is complained of. A script that stops gives the status of its code,
and then nothing of the lines below has been done. Any other script gives 0, and the line that says
so is the last thing that is shown. All this holds with any parser of command lines.

A status has only eight bits, so a code other than 0 can have the status of success. These are the
multiples of 256, and there are no others (`statusOf_eq_zero_iff`).
-/

namespace BuildScript

open Script Text Session

variable {σ ε : Type} (reader : Parser Argument ε) (dismiss : ε → Plan Nat)

theorem statusOf_eq_zero_iff (code : Int) : statusOf code = 0 ↔ (256 : Int) ∣ code := by
  rw [statusOf]
  omega

/-- The command line asks to run a script. -/
def Options.Executes (options : Options) : Prop :=
  options.showBanner = false ∧ options.showVersion = false ∧ options.makefile = none

/-- The line that is shown when a script has been run to its end. -/
def completionLine (began ended : Nat) : String :=
  let seconds := secondsText (ended - began)
  s!"Build completed in {seconds} seconds."

/-- What is left to do when a script has been run. -/
def conclude (began : Nat) : Except Fault Summary → Plan Nat
  | .error fault => abort fault
  | .ok summary =>
    match summary.exitCode with
    | some code => .done (statusOf code)
    | none =>
      .ask .stopwatch fun ended => .ask (.print (completionLine began ended)) fun _ => .done 0

theorem carryOut_eq {options : Options} (executes : options.Executes) :
    options.carryOut =
      .ask .stopwatch fun began => (run options.script options.targets).bind (conclude began) := by
  obtain ⟨noBanner, noVersion, noMakefile⟩ := executes
  simp only [Options.carryOut, noBanner, noVersion, noMakefile, Plan.bind_eq, Plan.request,
    Plan.ask_bind, Plan.done_bind, if_neg Bool.false_ne_true]
  congr 1
  funext began
  congr 1
  funext outcome
  rcases outcome with fault | ⟨executed, skipped, failed, none | code⟩ <;> rfl

/-- A command line that asks to run a script is carried out between two looks at the stopwatch. -/
theorem program_run (host : Host σ) (w : σ) {arguments : List String} {options : Options}
    (parsed : Options.ofArguments reader arguments = .ok options) (executes : options.Executes) :
    let began := host.answer .stopwatch w
    let whole := (run options.script options.targets).run host began.2
    let last := (conclude began.1 whole.1).run host whole.2.2
    let ended := (program reader dismiss arguments).run host w
    ended.1 = last.1 ∧
      calls ended.2.1 = .call .stopwatch began.1 :: calls whole.2.1 ++ calls last.2.1 := by
  simp [program, parsed, carryOut_eq executes, Plan.run, Plan.run_bind]

/-- To run a script is to read it and then to run its text. -/
theorem run_source (host : Host σ) (script : String) (targets : List String) (w : σ)
    {source : String}
    (usable : (host.answer (.load (Path.ofString script)) w).1 = .ok source.toUTF8) :
    let read := host.answer (.load (Path.ofString script)) w
    let session := Session.start (Path.ofString script) (.ofTargets targets)
    let whole := (run script targets).run host w
    let ran := (session.runSource source).run host read.2
    whole.1 = .ok ran.1.1 ∧ whole.2.2 = ran.2.2 ∧
      calls whole.2.1 = .call (.load (Path.ofString script)) read.1 :: calls ran.2.1 := by
  have loaded := readSource_usable host (Path.ofString script) w usable
  simp [run, Session.runFile, Session.start, Plan.run_bind, Plan.run, loaded]

/-- The command line of a script that can be used: what it asks of the host before the script is run,
what the lines ask, and what is left to do in the end. -/
theorem program_source (host : Host σ) (w : σ) {arguments : List String} {options : Options}
    (parsed : Options.ofArguments reader arguments = .ok options) (executes : options.Executes) :
    let path := Path.ofString options.script
    let session := Session.start path (.ofTargets options.targets)
    let began := host.answer .stopwatch w
    let read := host.answer (.load path) began.2
    let ended := (program reader dismiss arguments).run host w
    ∀ source : String, read.1 = .ok source.toUTF8 →
      let ran := (session.runSource source).run host read.2
      let last := (conclude began.1 (.ok ran.1.1)).run host ran.2.2
      ended.1 = last.1 ∧ calls ended.2.1 = [.call .stopwatch began.1, .call (.load path) read.1] ++
        (session.ledger host read.2 (parse source)).flatMap Entry.events ++ calls last.2.1 := by
  intro path session began read ended source usable
  obtain ⟨status, requests⟩ := program_run reader dismiss host w parsed executes
  obtain ⟨result, state, requests'⟩ :=
    run_source host options.script options.targets began.2 usable
  rw [result, state] at status requests
  rw [requests', runSource_requests] at requests
  exact ⟨status, requests⟩

/-- The exit status is true. Let a command line ask to run a script, as any parser reads it and on any
host. If the script cannot be read or is no text, the status is 1, and after the attempt to read it
there is one complaint.

Otherwise the run stops at the first call of `exit` in scope, if there is one. Then the status is that
of the code of this call, which is 0 exactly for multiples of 256. The lines up to this call are all
that is taken, their requests are all that is requested once the script has been read, and any
script with the same lines up to there has the same run. If there is no such call, the status is 0,
all lines are taken, and the completion line is shown last. -/
theorem program_status (host : Host σ) (w : σ) (arguments : List String) (options : Options)
    (parsed : Options.ofArguments reader arguments = .ok options) (executes : options.Executes) :
    let path := Path.ofString options.script
    let session := Session.start path (.ofTargets options.targets)
    let began := host.answer .stopwatch w
    let read := host.answer (.load path) began.2
    let ended := (program reader dismiss arguments).run host w
    let opening : List Event := [.call .stopwatch began.1, .call (.load path) read.1]
    (Unusable read.1 → ended.1 = 1 ∧
        ∃ message, calls ended.2.1 = opening ++ [.call (.complain message) ()]) ∧
      ∀ source : String, read.1 = .ok source.toUTF8 →
        let texts := lines source.toList
        let ran := (session.runSource source).run host read.2
        let entries := session.ledger host read.2 (parse source)
        let Stops := StopsAt session.selection (texts.map Line.ofChars)
        (∀ code, ran.1.1.exitCode = some code ↔
            ∃ i text, Stops i text ∧ code = ExitCode.ofString text) ∧
          (∀ i text, Stops i text →
            let code := ExitCode.ofString text
            (ended.1 = statusOf code ∧ (ended.1 = 0 ↔ (256 : Int) ∣ code)) ∧
              entries.length = i + 1 ∧
              calls ended.2.1 = opening ++ entries.flatMap Entry.events ∧
              ∀ other : String, (lines other.toList).take (i + 1) = texts.take (i + 1) →
                (session.runSource other).run host read.2 = ran) ∧
          ((∀ i text, ¬ Stops i text) →
            let done := host.answer .stopwatch ran.2.2
            ended.1 = 0 ∧ entries.length = texts.length ∧
              calls ended.2.1 = opening ++ entries.flatMap Entry.events ++
                [.call .stopwatch done.1, .call (.print (completionLine began.1 done.1)) ()]) := by
  intro path session began read ended opening
  refine ⟨fun unusable => ?_, fun source usable => ?_⟩
  · obtain ⟨status, requests⟩ := program_run reader dismiss host w parsed executes
    obtain ⟨⟨fault, stopped⟩, attempt, -⟩ :=
      run_unusable host options.script options.targets began.2 unusable
    rw [stopped] at status requests
    rw [attempt] at requests
    exact ⟨status, fault.report, requests⟩
  · intro texts ran entries Stops
    obtain ⟨status, requests⟩ := program_source reader dismiss host w parsed executes source usable
    have exitCode := runSource_exitCode_iff host (s := session) rfl read.2 source
    refine ⟨exitCode, fun i text stops => ?_, fun never => ?_⟩
    · intro code
      have exited : ran.1.1.exitCode = some code := (exitCode code).mpr ⟨i, text, stops, rfl⟩
      have concluded : conclude began.1 (.ok ran.1.1) = .done (statusOf code) := by
        rw [conclude, exited]
      rw [concluded] at status requests
      obtain ⟨length, -⟩ := ledger_stopsAt host (s := session) rfl read.2 (parse source)
        (by rw [map_snd_parse]; exact stops)
      refine ⟨⟨status, ?_⟩, length, requests.trans (List.append_nil _), ?_⟩
      · rw [show ended.1 = statusOf code from status]
        exact statusOf_eq_zero_iff code
      · exact fun other same => runSource_congr host rfl read.2 stops same
    · intro done
      obtain ⟨going, length⟩ :=
        ledger_length_of_not_stopsAt host (s := session) rfl read.2 source never
      have concluded : conclude began.1 (.ok ran.1.1) = .ask .stopwatch fun ended =>
          .ask (.print (completionLine began.1 ended)) fun _ => .done 0 := by
        rw [conclude, going]
      rw [concluded] at status requests
      exact ⟨status, length, requests⟩

/-- A workspace with nothing but a script in it. -/
def Workspace.withScript (source : String) : Workspace :=
  .layOut [(defaultScript, source.toUTF8)] [] [] true

/-- What a command line does in a workspace without programs. One that cannot be read gives 2. -/
def Workspace.carryOut (arguments : List String) (w : Workspace) : Nat × List Event × Workspace :=
  (program Reader.parse (fun _ => .done 2) arguments).run (host .bare) w

/-- A script that stops before its last line, and one that reports its line and comes to its end; and
a script that is not there. -/
theorem program_status_each :
    let stopping := Workspace.withScript "printfn(before)\nexit(4)\nprintfn(after)\n"
    let passing := Workspace.withScript "exit()\n"
    let stopped := stopping.carryOut []
    let passed := passing.carryOut []
    let lost := passing.carryOut ["-f", "none.samba"]
    (stopped.1 = 4 ∧ ∃ opening, calls stopped.2.1 = opening ++ [.call (.print "before") ()]) ∧
      (passed.1 = 0 ∧ ∃ before, calls passed.2.1 = before ++
        [.call .stopwatch (0 : Nat), .call (.print "Build completed in 0.00 seconds.") ()]) ∧
      lost.1 = 1 := by
  intro stopping passing stopped passed lost
  have parsed : Options.ofArguments Reader.parse [] =
      .ok ⟨false, false, defaultScript, none, 0, []⟩ := by decide +kernel
  refine ⟨?_, ?_, ?_⟩
  · have usable : ((Workspace.host .bare).answer (.load ⟨"build.samba"⟩) stopping).1 =
        .ok "printfn(before)\nexit(4)\nprintfn(after)\n".toUTF8 := by
      show (_ : Except Fault ByteArray) = _
      decide +kernel
    have read : (lines "printfn(before)\nexit(4)\nprintfn(after)\n".toList).map Line.ofChars =
        [.call ⟨"printfn", ["before"]⟩, .call (exitCall "4"), .call ⟨"printfn", ["after"]⟩] := rfl
    obtain ⟨-, known⟩ := program_status Reader.parse (fun _ => .done 2) (Workspace.host .bare)
      stopping [] _ parsed ⟨rfl, rfl, rfl⟩
    obtain ⟨-, stops, -⟩ := known _ usable
    obtain ⟨⟨status, -⟩, -, requests, -⟩ := stops 1 "4" (by
      rw [read]
      refine ⟨⟨rfl, by decide +kernel⟩, fun j before other exits => ?_⟩
      obtain rfl : j = 0 := by omega
      simp [ExitsAt, exitCall, Directive.name] at exits)
    exact ⟨status, _, requests⟩
  · have usable : ((Workspace.host .bare).answer (.load ⟨"build.samba"⟩) passing).1 =
        .ok "exit()\n".toUTF8 := by
      show (_ : Except Fault ByteArray) = _
      decide +kernel
    have read : (lines "exit()\n".toList).map Line.ofChars = [.call ⟨"exit", []⟩] := rfl
    obtain ⟨-, known⟩ := program_status Reader.parse (fun _ => .done 2) (Workspace.host .bare)
      passing [] _ parsed ⟨rfl, rfl, rfl⟩
    obtain ⟨-, -, goesOn⟩ := known _ usable
    obtain ⟨status, -, requests⟩ := goesOn (by
      rw [read]
      intro i text stops
      have line := List.mem_of_getElem? stops.exits.1
      simp [exitCall] at line)
    have shown : completionLine 0 0 = "Build completed in 0.00 seconds." := by decide +kernel
    rw [← shown]
    exact ⟨status, _, requests⟩
  · obtain ⟨unusable, -⟩ := program_status Reader.parse (fun _ => .done 2)
      (Workspace.host .bare) passing ["-f", "none.samba"]
      ⟨false, false, "none.samba", none, 0, []⟩ (by decide +kernel) ⟨rfl, rfl, rfl⟩
    refine (unusable (.inl ⟨.ofMessage FileError.noEntry.message, ?_⟩)).1
    show (_ : Except Fault ByteArray) = _
    decide +kernel

/-- A code that is not 0, and the status of success. -/
theorem program_status_wide :
    let w := Workspace.withScript "exit(256)\n"
    let session := Session.start ⟨"build.samba"⟩ (.ofTargets [])
    ((session.runSource "exit(256)\n").run (Workspace.host .bare) w).1.1.exitCode = some 256 ∧
      (w.carryOut []).1 = 0 := by
  decide +kernel

end BuildScript
