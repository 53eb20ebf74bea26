import BuildScript.Proofs.Host.Shown
import BuildScript.Proofs.Script.Numbering
import BuildScript.Proofs.Session.Ledger

/-!
# Runs in a row

To run one script and then another with the same session is to run both as one script, unless the
first one exits, and then the second one is not even looked at.

* **any host** (`takeLines_append`, `takeLines_plus`): the plan for the whole script is the plan for
  the first one and then that for the lines of the second, whose numbers go on from the first;
* **any host that does not act on line numbers** (`takeLines_renumber`): these lines come to the
  same as when their numbers start from 1, only the reports show the higher numbers.

A host can tell the two runs apart by the numbers in the reports (`runSource_append_numbered`), which
is why the second part is about hosts that do not act on them (`NumberBlind`). The hosts of this
library are such, although a workspace records the reports.
-/

namespace BuildScript

open Script Text

variable {σ : Type}

/-- Both summaries in one; the exit code is that of the second. -/
def Summary.plus (first second : Summary) : Summary :=
  ⟨first.executed + second.executed, first.skipped + second.skipped, first.failed + second.failed,
    second.exitCode⟩

theorem Summary.plus_count (first second : Summary) (verdict : Verdict) :
    (first.plus second).count verdict = first.plus (second.count verdict) := by
  cases verdict <;> simp [Summary.plus, Summary.count, Nat.add_assoc]

theorem Summary.plus_empty {s : Summary} (going : s.exitCode = none) : s.plus .empty = s := by
  obtain ⟨executed, skipped, failed, exitCode⟩ := s
  cases going
  rfl

namespace Session

/-! ## Any host -/

/-- The lines before are taken first; those after only if no line before has exited. -/
theorem takeLines_append (s : Session) {summary : Summary} (going : summary.exitCode = none)
    (before after : List (Nat × Line)) :
    s.takeLines summary (before ++ after) =
      (s.takeLines summary before).bind fun outcome =>
        if outcome.1.exitCode = none then outcome.2.takeLines outcome.1 after
        else .done outcome := by
  -- As long as the run goes on, its summary has no exit code (`going`).
  induction before generalizing s summary with
  | nil => simp [takeLines, going]
  | cons numbered before ih =>
      obtain ⟨number, line⟩ := numbered
      rw [List.cons_append, takeLines_cons, takeLines_cons, Plan.bind_assoc]
      congr 1
      funext outcome
      have shown := Summary.count_going going outcome.1
      cases exits : outcome.1.exits with
      | true => simp [shown, exits]
      | false => exact ih outcome.2 (shown.mpr exits)

/-- What was counted before only adds to what is counted now. -/
theorem takeLines_plus (s : Session) (before summary : Summary) (ls : List (Nat × Line)) :
    s.takeLines (before.plus summary) ls =
      (s.takeLines summary ls).bind fun outcome => .done (before.plus outcome.1, outcome.2) := by
  induction ls generalizing s summary with
  | nil => rfl
  | cons numbered ls ih =>
      obtain ⟨number, line⟩ := numbered
      rw [takeLines_cons, takeLines_cons, Plan.bind_assoc]
      congr 1
      funext outcome
      rw [Summary.plus_count]
      cases outcome.1.exits with
      | true => rfl
      | false => exact ih outcome.2 (summary.count outcome.1)

/-- Nothing of the lines after an exit shows in the run. -/
theorem takeLines_append_run_of_exit (host : Host σ) (s : Session) (w : σ)
    (before after : List (Nat × Line)) :
    let first := (s.takeLines .empty before).run host w
    first.1.1.exitCode ≠ none → (s.takeLines .empty (before ++ after)).run host w = first := by
  intro first exited
  rw [takeLines_append s rfl, Plan.run_bind]
  simp only [if_neg exited, Plan.run, List.append_nil, first]

/-- Without an exit the lines after are a run of their own, from where the lines before ended. -/
theorem takeLines_append_run (host : Host σ) (s : Session) (w : σ)
    (before after : List (Nat × Line)) :
    let first := (s.takeLines .empty before).run host w
    let rest := (first.1.2.takeLines .empty after).run host first.2.2
    first.1.1.exitCode = none →
      (s.takeLines .empty (before ++ after)).run host w =
        ((first.1.1.plus rest.1.1, rest.1.2), first.2.1 ++ rest.2.1, rest.2.2) := by
  intro first rest going
  have counted : first.1.2.takeLines first.1.1 after =
      (first.1.2.takeLines .empty after).bind fun outcome =>
        .done (first.1.1.plus outcome.1, outcome.2) := by
    rw [← takeLines_plus, Summary.plus_empty going]
  rw [takeLines_append s rfl, Plan.run_bind]
  simp only [if_pos going, counted, Plan.run_bind, Plan.run, List.append_nil, first, rest]

/-- What a run logs about itself at its end. -/
def closing (s : Session) (summary : Summary) : String :=
  s!"{s.script}: {summary.executed} executed, {summary.skipped} skipped, {summary.failed} failed"

/-- A script is run line by line, and at the end there is one more log record. -/
theorem runSource_run (host : Host σ) (s : Session) (w : σ) (source : String) :
    (s.runSource source).run host w =
      let outcome := (s.takeLines .empty (parse source)).run host w
      (outcome.1, outcome.2.1 ++ [.log .info (outcome.1.2.closing outcome.1.1)], outcome.2.2) := by
  simp only [runSource, Plan.bind_eq, Plan.run_bind]
  rfl

theorem runSource_outcome (host : Host σ) (s : Session) (w : σ) (source : String) :
    let outcome := (s.takeLines .empty (parse source)).run host w
    ((s.runSource source).run host w).1 = outcome.1 ∧
      ((s.runSource source).run host w).2.2 = outcome.2.2 ∧
      calls ((s.runSource source).run host w).2.1 = calls outcome.2.1 := by
  rw [runSource_run]
  exact ⟨rfl, rfl, by simp⟩

theorem runSource_requests (host : Host σ) (s : Session) (w : σ) (source : String) :
    calls ((s.runSource source).run host w).2.1 =
      (s.ledger host w (parse source)).flatMap Entry.events := by
  rw [(runSource_outcome host s w source).2.2]
  exact (takeLines_ledger host s .empty (parse source) w).2

/-! ## Hosts that do not act on line numbers -/

/-- States that are alike stay alike when one line is reported with two numbers. -/
structure NumberBlind (host : Host σ) (alike : σ → σ → Prop) : Prop extends host.Respects alike where
  report : ∀ {w w'}, alike w w' → ∀ m n message,
    alike (host.answer (.complain (lineReport m message)) w).2
      (host.answer (.complain (lineReport n message)) w').2

section

variable {host : Host σ} {alike : σ → σ → Prop} {w w' : σ}

theorem deed_alike (respects : host.Respects alike) (same : alike w w') (s : Session)
    (line : Line) : s.deed host w line = s.deed host w' line := by
  cases line with
  | call call =>
      obtain ⟨result, trace, -⟩ := respects.run (s.dispatch call) same
      simp only [deed, result, trace]
  | malformed error => rfl
  | label name => rfl
  | blank => rfl
  | comment => rfl

theorem settle_renumber (blind : NumberBlind host alike) (same : alike w w') (s : Session)
    (m n : Nat) (result : Except CallError Flow) :
    ((s.settle m result).run host w).1 = ((s.settle n result).run host w').1 ∧
      alike ((s.settle m result).run host w).2.2 ((s.settle n result).run host w').2.2 := by
  cases result with
  | error error => exact ⟨rfl, blind.report same m n _⟩
  | ok flow =>
      cases flow with
      | proceed => exact ⟨rfl, same⟩
      | exit code => exact ⟨rfl, same⟩

theorem takeLine_renumber (blind : NumberBlind host alike) (same : alike w w') (s : Session)
    (m n : Nat) (line : Line) :
    ((s.takeLine m line).run host w).1 = ((s.takeLine n line).run host w').1 ∧
      alike ((s.takeLine m line).run host w).2.2 ((s.takeLine n line).run host w').2.2 := by
  cases line with
  | blank => exact ⟨rfl, same⟩
  | comment => exact ⟨rfl, same⟩
  | label name => exact ⟨rfl, same⟩
  | malformed error =>
      by_cases active : s.selection.isActive = true
      · simp only [takeLine, if_pos active]
        exact ⟨rfl, blind.report same m n _⟩
      · simp only [takeLine, if_neg active]
        exact ⟨rfl, same⟩
  | call call =>
      by_cases active : s.selection.isActive = true
      · obtain ⟨result, -, next⟩ := blind.run (s.dispatch call) same
        obtain ⟨verdict, last⟩ := settle_renumber blind next
          ((s.dispatch call).run host w).1.2 m n ((s.dispatch call).run host w).1.1
        simp only [takeLine, if_pos active, Plan.bind_eq, Plan.run_bind, ← result]
        exact ⟨by rw [verdict]; rfl, last⟩
      · simp only [takeLine, if_neg active]
        exact ⟨rfl, same⟩

/-- Lines further down come to the same as they would at the top: the same summary and session, and
the same ledger but for the numbers. -/
theorem takeLines_renumber (blind : NumberBlind host alike) (offset : Nat) (s : Session)
    (summary : Summary) (ls : List (Nat × Line)) (same : alike w w') :
    let below := (s.takeLines summary (ls.map (later offset))).run host w
    let top := (s.takeLines summary ls).run host w'
    below.1 = top.1 ∧ alike below.2.2 top.2.2 ∧
      s.ledger host w (ls.map (later offset)) = (s.ledger host w' ls).map (Entry.shift offset) := by
  -- The states that the two runs have reached are alike after every line.
  induction ls generalizing s summary w w' with
  | nil => exact ⟨rfl, same, rfl⟩
  | cons numbered ls ih =>
      obtain ⟨number, line⟩ := numbered
      obtain ⟨result, next⟩ :=
        takeLine_renumber blind same (s.observe line) (number + offset) number line
      rw [List.map_cons, later, takeLines_cons, takeLines_cons, ledger, ledger, Plan.run_bind,
        Plan.run_bind, deed_alike blind.toRespects same]
      generalize ((s.observe line).takeLine (number + offset) line).run host w = below at *
      generalize ((s.observe line).takeLine number line).run host w' = top at *
      simp only [result]
      cases exits : top.1.1.exits with
      | true => exact ⟨rfl, next, rfl⟩
      | false =>
          obtain ⟨outcome, final, entries⟩ := ih top.1.2 (summary.count top.1.1) next
          exact ⟨outcome, final, congrArg _ entries⟩

end

/-- A host that ignores the console does not act on the numbers in reports. -/
theorem NumberBlind.ofIgnoresConsole {host : Host σ} {alike : σ → σ → Prop}
    (deaf : host.IgnoresConsole alike) : NumberBlind host alike where
  toRespects := deaf.toRespects
  report {w w'} same _ _ _ :=
    deaf.trans (deaf.shown _ w rfl) (deaf.trans same (deaf.symm (deaf.shown _ w' rfl)))

theorem numberBlind_rehearsal : NumberBlind Rehearsal.host Eq :=
  .ofIgnoresConsole Rehearsal.ignoresConsole

theorem numberBlind_workspace (platform : Platform) :
    NumberBlind (Workspace.host platform) Workspace.SameButConsole :=
  .ofIgnoresConsole (Workspace.ignoresConsole platform)

/-! ## Whole scripts -/

/-- Two scripts in one, when the first has ended its last line: a run that exits in the first is the
run of the first, and otherwise the second goes on where the first has ended, with its line numbers
above those of the first.

Without an exit, on any host, the whole comes to the first run and then a run of the second's lines
under these higher numbers. If the host does not act on line numbers, this is the run of the second
script itself: the same counts, exit code and session, states that are alike, and the same requests
except that each report of a line has the number that the line has in the whole. The ledger tells
these reports from text that a program or a directive shows, whatever that looks like. -/
theorem runSource_append (host : Host σ) (s : Session) (w : σ) (first second : String)
    (ended : first = "" ∨ first.toList.getLast? = some '\n') :
    let one := (s.runSource first).run host w
    let two := (one.1.2.runSource second).run host one.2.2
    let whole := (s.runSource (first ++ second)).run host w
    let height := (lines first.toList).length
    let below := (parse second).map (later height)
    let rest := (one.1.2.takeLines .empty below).run host one.2.2
    let record := one.1.2.ledger host one.2.2 (parse second)
    (one.1.1.exitCode ≠ none → whole = one) ∧
      (one.1.1.exitCode = none →
        (whole.1 = (one.1.1.plus rest.1.1, rest.1.2) ∧ whole.2.2 = rest.2.2 ∧
            calls whole.2.1 = calls one.2.1 ++ calls rest.2.1) ∧
          ∀ alike, NumberBlind host alike →
            whole.1 = (one.1.1.plus two.1.1, two.1.2) ∧ alike whole.2.2 two.2.2 ∧
              calls two.2.1 = record.flatMap Entry.events ∧
              calls whole.2.1 =
                calls one.2.1 ++ (record.map (Entry.shift height)).flatMap Entry.events) := by
  intro one two whole height below rest record
  have ended' : Ended first.toList := ended.imp_left fun empty => by simp [empty]
  have split : parse (first ++ second) = parse first ++ below := parse_append first second ended'
  obtain ⟨one_result, one_state, one_calls⟩ := runSource_outcome host s w first
  obtain ⟨whole_result, whole_state, whole_calls⟩ := runSource_outcome host s w (first ++ second)
  rw [split] at whole_result whole_state whole_calls
  refine ⟨?_, ?_⟩
  · intro exited
    have nothing := takeLines_append_run_of_exit host s w (parse first) below
      (by rwa [← one_result])
    show (s.runSource (first ++ second)).run host w = (s.runSource first).run host w
    rw [runSource_run, runSource_run, split, nothing]
  · intro going
    have further := takeLines_append_run host s w (parse first) below (by rwa [← one_result])
    rw [← one_result, ← one_state] at further
    have whole_rest : whole.1 = (one.1.1.plus rest.1.1, rest.1.2) ∧ whole.2.2 = rest.2.2 ∧
        calls whole.2.1 = calls one.2.1 ++ calls rest.2.1 := by
      refine ⟨?_, ?_, ?_⟩
      · exact whole_result.trans (congrArg Prod.fst further)
      · exact whole_state.trans (congrArg (fun outcome => outcome.2.2) further)
      · rw [whole_calls, further, calls_append, ← one_calls]
    refine ⟨whole_rest, ?_⟩
    intro alike blind
    -- The same lines twice: with the numbers they have in the whole, and with their own.
    obtain ⟨result, state, entries⟩ :=
      takeLines_renumber blind height one.1.2 .empty (parse second) (blind.refl one.2.2)
    obtain ⟨two_result, two_state, two_calls⟩ := runSource_outcome host one.1.2 one.2.2 second
    refine ⟨?_, ?_, ?_, ?_⟩
    · rw [whole_rest.1, two_result, ← result]
    · rw [whole_rest.2.1, two_state]
      exact state
    · rw [two_calls]
      exact (takeLines_ledger host one.1.2 .empty (parse second) one.2.2).2
    · rw [whole_rest.2.2, (takeLines_ledger host one.1.2 .empty below one.2.2).2, entries]

/-- The first script ends inside a target that is not requested, so the second begins by skipping a
call. The error in its third line is reported for the fifth line of the whole. An exit in the first
script ends the whole. -/
theorem runSource_append_target :
    let s := start ⟨"build.samba"⟩ (.ofTargets ["release"])
    let other : Session := { s with selection := ⟨["release"], some "other"⟩ }
    let bare : Rehearsal := ⟨.empty, [], .empty, .empty, .empty, .empty, "0", []⟩
    let one := (s.runSource "frobnicate()\nother:\n").run Rehearsal.host bare
    let two := (other.runSource "print(a)\nrelease:\nhalt()\n").run Rehearsal.host bare
    let whole := (s.runSource ("frobnicate()\nother:\n" ++ "print(a)\nrelease:\nhalt()\n")).run
      Rehearsal.host bare
    let reported (text : String) : Event := .call (.complain text) ()
    (one.1 = (⟨0, 0, 1, none⟩, other) ∧ two.1.1 = ⟨0, 1, 1, none⟩ ∧
        calls two.2.1 = [reported "line 3: Unknown directive: halt"]) ∧
      (whole.1 = (⟨0, 1, 2, none⟩, two.1.2) ∧ whole.2.2 = two.2.2 ∧
        calls whole.2.1 = [reported "line 1: Unknown directive: frobnicate",
          reported "line 5: Unknown directive: halt"]) ∧
      (s.runSource ("exit(3)\n" ++ "print(a)\n")).run Rehearsal.host bare =
        (s.runSource "exit(3)\n").run Rehearsal.host bare := by
  intro s other bare one two whole reported
  have outcome : ((s.runSource "frobnicate()\nother:\n").run Rehearsal.host bare).1 =
      (⟨0, 0, 1, none⟩, other) := rfl
  have state : ((s.runSource "frobnicate()\nother:\n").run Rehearsal.host bare).2.2 = bare := rfl
  have before : calls ((s.runSource "frobnicate()\nother:\n").run Rehearsal.host bare).2.1 =
      [reported "line 1: Unknown directive: frobnicate"] := rfl
  have height : (lines "frobnicate()\nother:\n".toList).length = 2 := rfl
  have record : other.ledger Rehearsal.host bare (parse "print(a)\nrelease:\nhalt()\n") =
      [⟨1, .call ⟨"print", ["a"]⟩, .skipped⟩, ⟨2, .label "release", .passed⟩,
        ⟨3, .call ⟨"halt", []⟩, .dispatched [] (.error (.unknown "halt"))⟩] := rfl
  have counts : two.1.1 = ⟨0, 1, 1, none⟩ := rfl
  obtain ⟨-, going⟩ := runSource_append Rehearsal.host s bare "frobnicate()\nother:\n"
    "print(a)\nrelease:\nhalt()\n" (.inr rfl)
  obtain ⟨-, blind⟩ := going (by rw [outcome])
  obtain ⟨result, final, top, all⟩ := blind Eq numberBlind_rehearsal
  rw [outcome, state] at result final top
  rw [outcome, state, before, height] at all
  obtain ⟨stopped, -⟩ :=
    runSource_append Rehearsal.host s bare "exit(3)\n" "print(a)\n" (.inr rfl)
  refine ⟨⟨outcome, counts, ?_⟩, ⟨?_, final, ?_⟩, stopped ?_⟩
  · show calls two.2.1 = _
    rw [top, record]
    rfl
  · show whole.1 = _
    rw [result]
    show (Summary.plus _ two.1.1, two.1.2) = _
    rw [counts]
    rfl
  · rw [all, record]
    rfl
  · have code : ((s.runSource "exit(3)\n").run Rehearsal.host bare).1.1.exitCode = some 3 := rfl
    simp [code]

/-- The host, but it refuses whatever it can once it has shown this line on standard error. -/
def refusingAfter (line : String) (host : Host σ) : Host (Bool × σ) where
  answer request state :=
    let refusal? := if state.1 then request.failure? (.ofMessage "refused") else none
    match refusal? with
    | some reply => (reply, state)
    | none =>
      let shown := match request with
        | .complain text => text == line
        | _ => false
      let (reply, w) := host.answer request state.2
      (reply, state.1 || shown, w)

/-- The numbers in reports can be told. A workspace records what it shows, so it is left in another
state when the second script goes on below the first than when it is run by itself. A host that
refuses directories after a report of the second line even lets another call fail. -/
theorem runSource_append_numbered :
    let s := start ⟨"build.samba"⟩ (.ofTargets [])
    let first := "halt()\n"
    let second := "halt()\nset_build_directory(out)\n"
    (let host := Workspace.host .bare
      let w := Workspace.layOut [] [] [] false
      let one := (s.runSource first).run host w
      let two := (one.1.2.runSource second).run host one.2.2
      let whole := (s.runSource (first ++ second)).run host w
      one.1.1.exitCode = none ∧
        two.2.2.errors =
          "line 1: Unknown directive: halt\nline 1: Unknown directive: halt\n".toUTF8 ∧
        whole.2.2.errors =
          "line 1: Unknown directive: halt\nline 2: Unknown directive: halt\n".toUTF8) ∧
      (let host := refusingAfter "line 2: Unknown directive: halt" Rehearsal.host
        let w := (false, ⟨.empty, [], .empty, .empty, .empty, .empty, "0", []⟩)
        let one := (s.runSource first).run host w
        let two := (one.1.2.runSource second).run host one.2.2
        let whole := (s.runSource (first ++ second)).run host w
        one.1.1 = ⟨0, 0, 1, none⟩ ∧
          (two.1.1 = ⟨1, 0, 1, none⟩ ∧ two.1.2.settings.buildDir = some ⟨"out"⟩) ∧
          whole.1.1 = ⟨0, 0, 3, none⟩ ∧ whole.1.2.settings.buildDir = none) := by
  decide +kernel

end Session

end BuildScript
