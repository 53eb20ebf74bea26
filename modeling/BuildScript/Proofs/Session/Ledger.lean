import BuildScript.Proofs.Host.Outcomes
import BuildScript.Session

/-!
# The ledger of a run

A run takes the lines of a script one by one. Its ledger has an entry for each line that it took:
the number, the line, and the deed, which is what the run did about it. Requests that a call made
stand apart from the report of its error there, while in the trace of the run one follows the other
and nothing but the place tells a report from a text that a program printed.

* `takeLine_deed`: what a line comes to is what its deed says;
* `takeLines_ledger`: the summary and the requests of a run are those of its ledger.
-/

namespace BuildScript

/-- Whether nothing is done after the line. -/
def Verdict.exits : Verdict → Bool
  | .exited _ => true
  | .executed | .skipped | .failed | .quiet => false

/-- A summary shows that the run has exited. -/
theorem Summary.count_going {s : Summary} (going : s.exitCode = none) (verdict : Verdict) :
    (s.count verdict).exitCode = none ↔ verdict.exits = false := by
  cases verdict <;> simp [Summary.count, Verdict.exits, going]

namespace Session

open Script

variable {σ : Type}

/-- The text that reports a line. -/
def lineReport (number : Nat) (message : String) : String := s!"line {number}: {message}"

/-- What a run did about a line. -/
inductive Deed where
  /-- The call was carried out with these requests and this result. -/
  | dispatched (requests : List Event) (result : Except CallError Flow)
  /-- The call is outside the requested targets. -/
  | skipped
  /-- The line is malformed. -/
  | refused (error : LineError)
  /-- There was nothing to do. -/
  | passed

namespace Deed

/-- What became of the line. -/
def verdict : Deed → Verdict
  | .dispatched _ (.ok .proceed) => .executed
  | .dispatched _ (.ok (.exit code)) => .exited code
  | .dispatched _ (.error _) => .failed
  | .skipped => .skipped
  | .refused _ => .failed
  | .passed => .quiet

/-- The requests that the line's call made. -/
def requests : Deed → List Event
  | .dispatched requests _ => requests
  | .skipped | .refused _ | .passed => []

/-- The message with which the line is reported. -/
def message? : Deed → Option String
  | .dispatched _ (.error error) => some error.message
  | .refused error => some error.message
  | .dispatched _ (.ok _) | .skipped | .passed => none

end Deed

/-- A line that a run took. -/
structure Entry where
  number : Nat
  line : Line
  deed : Deed

namespace Entry

/-- The report of the line, if there is one. -/
def report (entry : Entry) : List Event :=
  entry.deed.message?.toList.map fun message =>
    .call (.complain (lineReport entry.number message)) ()

/-- All requests that the line led to. -/
def events (entry : Entry) : List Event := entry.deed.requests ++ entry.report

/-- The same line further down in a script. -/
def shift (offset : Nat) (entry : Entry) : Entry := { entry with number := entry.number + offset }

end Entry

/-- What a session does about a line, when it has observed it. -/
def deed (s : Session) (host : Host σ) (w : σ) : Line → Deed
  | .call call =>
    if s.selection.isActive then
      let outcome := (s.dispatch call).run host w
      .dispatched (calls outcome.2.1) outcome.1.1
    else .skipped
  | .malformed error => if s.selection.isActive then .refused error else .passed
  | .label _ | .blank | .comment => .passed

/-- The entries of a run, up to the line that exits. -/
def ledger (s : Session) (host : Host σ) (w : σ) : List (Nat × Line) → List Entry
  | [] => []
  | (number, line) :: rest =>
    let outcome := ((s.observe line).takeLine number line).run host w
    ⟨number, line, (s.observe line).deed host w line⟩ ::
      if outcome.1.1.exits then [] else ledger outcome.1.2 host outcome.2.2 rest

/-! ## One line -/

/-- What is left to do about a call that was dispatched. -/
theorem settle_run (s : Session) (host : Host σ) (w : σ) (number : Nat)
    (result : Except CallError Flow) (requests : List Event) (line : Line) :
    ((s.settle number result).run host w).1 = (Deed.dispatched requests result).verdict ∧
      requests ++ calls ((s.settle number result).run host w).2.1 =
        Entry.events ⟨number, line, .dispatched requests result⟩ := by
  cases result with
  | error error => exact ⟨rfl, rfl⟩
  | ok flow =>
      cases flow with
      | proceed => exact ⟨rfl, rfl⟩
      | exit code => exact ⟨rfl, rfl⟩

/-- A line's deed has its verdict, and its events are the requests of the run. -/
theorem takeLine_deed (s : Session) (host : Host σ) (w : σ) (number : Nat) (line : Line) :
    ((s.takeLine number line).run host w).1.1 = (s.deed host w line).verdict ∧
      calls ((s.takeLine number line).run host w).2.1 =
        Entry.events ⟨number, line, s.deed host w line⟩ := by
  cases line with
  | blank => exact ⟨rfl, rfl⟩
  | comment => exact ⟨rfl, rfl⟩
  | label name => exact ⟨rfl, rfl⟩
  | malformed error =>
      by_cases active : s.selection.isActive = true
      · simp only [takeLine, deed, if_pos active]
        exact ⟨rfl, rfl⟩
      · simp only [takeLine, deed, if_neg active]
        exact ⟨rfl, rfl⟩
  | call call =>
      by_cases active : s.selection.isActive = true
      · simp only [takeLine, deed, if_pos active, Plan.bind_eq, Plan.run_bind, calls_append]
        have settled := settle_run ((s.dispatch call).run host w).1.2 host
          ((s.dispatch call).run host w).2.2 number ((s.dispatch call).run host w).1.1
          (calls ((s.dispatch call).run host w).2.1) (.call call)
        refine ⟨settled.1, ?_⟩
        rw [← settled.2]
        simp [Plan.run]
      · simp only [takeLine, deed, if_neg active]
        exact ⟨rfl, rfl⟩

/-! ## All lines -/

/-- A run goes on with the rest of the lines unless this one exits. -/
theorem takeLines_cons (s : Session) (summary : Summary) (number : Nat) (line : Line)
    (rest : List (Nat × Line)) :
    s.takeLines summary ((number, line) :: rest) =
      ((s.observe line).takeLine number line).bind fun outcome =>
        if outcome.1.exits then .done (summary.count outcome.1, outcome.2)
        else outcome.2.takeLines (summary.count outcome.1) rest := by
  simp only [takeLines, Plan.bind_eq]
  congr 1
  funext outcome
  obtain ⟨verdict, s⟩ := outcome
  cases verdict <;> rfl

/-- The verdicts of a ledger make the summary of the run, and its events are the requests. -/
theorem takeLines_ledger (host : Host σ) (s : Session) (summary : Summary)
    (ls : List (Nat × Line)) (w : σ) :
    ((s.takeLines summary ls).run host w).1.1 =
        ((s.ledger host w ls).map fun entry => entry.deed.verdict).foldl Summary.count summary ∧
      calls ((s.takeLines summary ls).run host w).2.1 =
        (s.ledger host w ls).flatMap Entry.events := by
  -- The session and the state that the lines so far have left are those of the ledger.
  induction ls generalizing s summary w with
  | nil => exact ⟨rfl, rfl⟩
  | cons numbered ls ih =>
      obtain ⟨number, line⟩ := numbered
      obtain ⟨verdict, events⟩ := (s.observe line).takeLine_deed host w number line
      rw [takeLines_cons, Plan.run_bind, ledger]
      simp only [calls_append, List.map_cons, List.foldl_cons, List.flatMap_cons, ← verdict,
        ← events]
      split
      · simp [Plan.run]
      · obtain ⟨summed, requests⟩ := ih (((s.observe line).takeLine number line).run host w).1.2
          (summary.count (((s.observe line).takeLine number line).run host w).1.1)
          (((s.observe line).takeLine number line).run host w).2.2
        exact ⟨summed, congrArg _ requests⟩

end Session

end BuildScript
