import BuildScript.Proofs.Action.Proceeding
import BuildScript.Proofs.Session.Accounting
import BuildScript.Proofs.Vocabulary

/-!
# Where a run stops

Whether a run stops before its last line, where, and with which code, can be read off the text of
the script and the requested targets: it stops at the first call of `exit` with one argument that is
in scope (`StopsAt`). What the other calls do and what the host answers plays no part in it.

* `dispatched_exited_iff`: in the standard vocabulary a dispatched call stops the run if it is such
  a call, and only then;
* `ledger_stopsAt`: the line where the run stops is the last one it takes;
* `exitCode_iff_stopsAt`: it gives the summary its exit code, and nothing else does;
* `runSource_congr`: a script that is the same up to there has the same run.
-/

namespace BuildScript

open Script Text

variable {σ : Type}

/-! ## Calls that stop a run -/

/-- The verdict that stops a run is that of a call that was dispatched. -/
theorem Session.Deed.verdict_eq_exited_iff (deed : Session.Deed) (code : Int) :
    deed.verdict = .exited code ↔ ∃ requests, deed = .dispatched requests (.ok (.exit code)) := by
  cases deed with
  | skipped => simp [Session.Deed.verdict]
  | refused error => simp [Session.Deed.verdict]
  | passed => simp [Session.Deed.verdict]
  | dispatched requests result =>
      cases result with
      | error error => simp [Session.Deed.verdict]
      | ok flow => cases flow <;> simp [Session.Deed.verdict]

theorem Verdict.exits_iff (verdict : Verdict) :
    verdict.exits = true ↔ ∃ code, verdict = .exited code := by
  cases verdict <;> simp [Verdict.exits]

/-- The call of `exit` with one argument. -/
def exitCall (text : String) : Call := ⟨Directive.exit.name, [text]⟩

namespace Session

theorem act_exits (s : Session) (d : Directive) (call : Call) (code : Int) :
    (s.act d call).Ensures fun _ outcome =>
      outcome.1 = .ok (.exit code) →
        d = .exit ∧ ∃ text, call.args = [text] ∧ code = ExitCode.ofString text := by
  by_cases exit : d = .exit
  · subst exit
    refine (Action.exit_ensures call s.settings).bind fun _ outcome known completed => ?_
    obtain ⟨text, args, flow⟩ := (known _).mp completed
    exact ⟨rfl, text, args, Flow.exit.inj flow⟩
  · refine (Action.proceeds_action s.script call exit s.settings).bind fun _ outcome goesOn => ?_
    intro completed
    cases goesOn _ completed

theorem dispatch_exits {s : Session} (standard : s.vocabulary = .standard) {call : Call}
    {code : Int} :
    (s.dispatch call).Ensures fun _ outcome =>
      outcome.1 = .ok (.exit code) →
        ∃ text, call = exitCall text ∧ code = ExitCode.ofString text := by
  unfold dispatch
  cases found : s.vocabulary.get? call.name with
  | none => exact fun exited => by cases exited
  | some binding =>
      obtain ⟨d, named, rfl⟩ := (Vocabulary.standard_get?_iff _ _).mp (standard ▸ found)
      dsimp only
      split
      · refine (s.act_exits d call code).mono fun _ outcome known exited => ?_
        obtain ⟨rfl, text, args, value⟩ := known exited
        obtain ⟨name, args'⟩ := call
        obtain rfl : args' = [text] := args
        exact ⟨text, by rw [exitCall, named], value⟩
      · exact fun exited => by cases exited

theorem dispatch_exitCall (host : Host σ) {s : Session} (standard : s.vocabulary = .standard)
    (w : σ) (text : String) :
    ((s.dispatch (exitCall text)).run host w).1.1 = .ok (.exit (ExitCode.ofString text)) := by
  have found : s.vocabulary.get? (exitCall text).name = some ⟨1, .exit⟩ := by
    rw [standard]
    exact Vocabulary.standard_get?_name .exit
  simp only [dispatch, found]
  rfl

/-- With the standard vocabulary a dispatched call stops the run exactly if it is a call of `exit`
with one argument. -/
theorem dispatched_exited_iff (host : Host σ) (place : Session × σ)
    (standard : place.1.vocabulary = .standard) (call : Call) (code : Int) :
    (dispatched host place call).verdict = .exited code ↔
      ∃ text, call = exitCall text ∧ code = ExitCode.ofString text := by
  have result : (dispatched host place call).verdict = .exited code ↔
      ((place.1.dispatch call).run host place.2).1.1 = .ok (.exit code) := by
    rw [Deed.verdict_eq_exited_iff]
    simp [dispatched]
  rw [result]
  constructor
  · exact (dispatch_exits standard).run host place.2
  · rintro ⟨text, rfl, rfl⟩
    exact dispatch_exitCall host standard place.2 text

/-- What a line is due stops the run exactly if it is such a call, in scope. -/
theorem due_exited_iff (host : Host σ) (place : Session × σ)
    (standard : place.1.vocabulary = .standard) (selection : Selection) (above : List Line)
    (line : Line) (code : Int) :
    (due selection above (dispatched host place) line).verdict = .exited code ↔
      ∃ text, (line = .call (exitCall text) ∧ selection.InScope above) ∧
        code = ExitCode.ofString text := by
  cases line with
  | blank => simp [due, Deed.verdict]
  | comment => simp [due, Deed.verdict]
  | label name => simp [due, Deed.verdict]
  | malformed error =>
      rw [due]
      split <;> simp [Deed.verdict]
  | call call =>
      rw [due]
      split
      · rename_i inScope
        rw [dispatched_exited_iff host place standard]
        simp [inScope]
      · rename_i outside
        simp [Deed.verdict, outside]

/-! ## The first of them -/

/-- At a place there is a call of `exit` with one argument, in scope. -/
def ExitsAt (selection : Selection) (ls : List Line) (i : Nat) (text : String) : Prop :=
  ls[i]? = some (.call (exitCall text)) ∧ selection.InScope (ls.take i)

/-- The run of the lines stops at a place: at the first call of `exit` with one argument that is in
scope. -/
structure StopsAt (selection : Selection) (ls : List Line) (i : Nat) (text : String) : Prop where
  exits : ExitsAt selection ls i text
  first : ∀ j < i, ∀ other, ¬ ExitsAt selection ls j other

section

variable {selection : Selection} {ls ls' : List Line} {i : Nat} {text : String}

/-- Only what is above counts. -/
theorem ExitsAt.congr {height : Nat} (same : ls'.take height = ls.take height) (here : i < height)
    (exits : ExitsAt selection ls i text) : ExitsAt selection ls' i text := by
  obtain ⟨line, inScope⟩ := exits
  refine ⟨?_, ?_⟩
  · rw [← List.getElem?_take_of_lt here, same, List.getElem?_take_of_lt here, line]
  · have above := congrArg (List.take i) same
    rw [List.take_take, List.take_take, Nat.min_eq_left (Nat.le_of_lt here)] at above
    rwa [above]

theorem StopsAt.congr (same : ls'.take (i + 1) = ls.take (i + 1))
    (stops : StopsAt selection ls i text) : StopsAt selection ls' i text where
  exits := stops.exits.congr same i.lt_succ_self
  first j before other exits :=
    stops.first j before other (exits.congr same.symm (Nat.lt_succ_of_lt before))

end

section

variable (host : Host σ) {s : Session} (standard : s.vocabulary = .standard) (w : σ)
  (ls : List (Nat × Line))

include standard

/-- The entry at a place stops the run exactly if the line there says so. -/
theorem entry_exited_iff {i : Nat} {entry : Entry}
    (found : (s.ledger host w ls)[i]? = some entry) (code : Int) :
    entry.deed.verdict = .exited code ↔
      ∃ text, ExitsAt s.selection (ls.map Prod.snd) i text ∧ code = ExitCode.ofString text := by
  obtain ⟨here, deed⟩ := s.ledger_getElem? host w ls i entry found
  have kept : (s.reached host w (ls.take i)).1.vocabulary = .standard :=
    (s.reached_vocabulary host w _).trans standard
  rw [deed, due_exited_iff host _ kept]
  simp [ExitsAt, here]

theorem entry_goesOn_iff {i : Nat} {entry : Entry}
    (found : (s.ledger host w ls)[i]? = some entry) :
    entry.deed.verdict.exits = false ↔
      ∀ text, ¬ ExitsAt s.selection (ls.map Prod.snd) i text := by
  rw [← Bool.not_eq_true, Verdict.exits_iff]
  simp [entry_exited_iff host standard w ls found]

/-- The line where a run stops is the last one it takes. -/
theorem ledger_stopsAt {i : Nat} {text : String}
    (stops : StopsAt s.selection (ls.map Prod.snd) i text) :
    (s.ledger host w ls).length = i + 1 ∧
      ∃ last, (s.ledger host w ls)[i]? = some last ∧
        last.deed.verdict = .exited (ExitCode.ofString text) := by
  have taken : i < (s.ledger host w ls).length := by
    -- A run that does not come to this line goes on after every line it takes, so it takes all.
    by_contra short
    have all := s.ledger_complete host w ls fun entry member => by
      obtain ⟨j, found⟩ := List.mem_iff_getElem?.mp member
      obtain ⟨before, -⟩ := List.getElem?_eq_some_iff.mp found
      exact (entry_goesOn_iff host standard w ls found).mpr
        (stops.first j (Nat.lt_of_lt_of_le before (Nat.not_lt.mp short)))
    obtain ⟨there, -⟩ := List.getElem?_eq_some_iff.mp stops.exits.1
    rw [List.length_map] at there
    omega
  have found := List.getElem?_eq_getElem taken
  have exited := (entry_exited_iff host standard w ls found _).mpr ⟨text, stops.exits, rfl⟩
  refine ⟨?_, _, found, exited⟩
  by_contra more
  have earlier : (s.ledger host w ls)[i] ∈ (s.ledger host w ls).dropLast := by
    rw [List.mem_iff_getElem]
    exact ⟨i, by rw [List.length_dropLast]; omega, List.getElem_dropLast _⟩
  have goesOn := s.ledger_goesOn host w ls _ earlier
  rw [exited] at goesOn
  cases goesOn

/-- A run has an exit code exactly if it stops, and it is the code of the call where it stops. -/
theorem exitCode_iff_stopsAt (code : Int) :
    (summaryOf (s.ledger host w ls)).exitCode = some code ↔
      ∃ i text, StopsAt s.selection (ls.map Prod.snd) i text ∧
        code = ExitCode.ofString text := by
  have goesOn := s.ledger_goesOn host w ls
  rw [exitCode_iff _ goesOn]
  constructor
  · rintro ⟨last, requests, found, deed⟩
    rw [List.getLast?_eq_getElem?] at found
    have exited : last.deed.verdict = .exited code := by rw [deed, Deed.verdict]
    obtain ⟨text, exits, value⟩ := (entry_exited_iff host standard w ls found code).mp exited
    refine ⟨_, text, ⟨exits, fun j before => ?_⟩, value⟩
    have there : j < (s.ledger host w ls).dropLast.length := by
      rw [List.length_dropLast]
      exact before
    have here := List.getElem?_eq_getElem (Nat.lt_of_lt_of_le before (Nat.sub_le _ 1))
    refine (entry_goesOn_iff host standard w ls here).mp (goesOn _ ?_)
    exact List.mem_iff_getElem.mpr ⟨j, there, List.getElem_dropLast _⟩
  · rintro ⟨i, text, stops, rfl⟩
    obtain ⟨length, last, found, exited⟩ := ledger_stopsAt host standard w ls stops
    obtain ⟨requests, deed⟩ := (Deed.verdict_eq_exited_iff _ _).mp exited
    refine ⟨last, requests, ?_, deed⟩
    rw [List.getLast?_eq_getElem?, length]
    exact found

end

/-! ## Whole scripts -/

section

variable (host : Host σ) {s : Session} (standard : s.vocabulary = .standard) (w : σ)
  (source : String)

include standard

theorem runSource_exitCode_iff (code : Int) :
    ((s.runSource source).run host w).1.1.exitCode = some code ↔
      ∃ i text, StopsAt s.selection ((lines source.toList).map Line.ofChars) i text ∧
        code = ExitCode.ofString text := by
  rw [runSource_summary, exitCode_iff_stopsAt host standard, map_snd_parse]

/-- A run that stops nowhere takes all lines. -/
theorem ledger_length_of_not_stopsAt
    (never : ∀ i text, ¬ StopsAt s.selection ((lines source.toList).map Line.ofChars) i text) :
    ((s.runSource source).run host w).1.1.exitCode = none ∧
      (s.ledger host w (parse source)).length = (lines source.toList).length := by
  have going : ((s.runSource source).run host w).1.1.exitCode = none := by
    refine Option.eq_none_iff_forall_ne_some.mpr fun code exited => ?_
    obtain ⟨i, text, stops, -⟩ := (runSource_exitCode_iff host standard w source code).mp exited
    exact never i text stops
  refine ⟨going, ?_⟩
  rw [runSource_summary] at going
  rw [s.ledger_complete host w (parse source)
    (goesOn_of_exitCode (s.ledger_goesOn host w (parse source)) going), parse_eq_mapIdx,
    List.length_mapIdx]

end

/-- Where a run stops, it does not matter what follows: scripts that have the same lines up to there
have the same run. -/
theorem runSource_congr (host : Host σ) {s : Session} (standard : s.vocabulary = .standard) (w : σ)
    {source other : String} {i : Nat} {text : String}
    (stops : StopsAt s.selection ((lines source.toList).map Line.ofChars) i text)
    (same : (lines other.toList).take (i + 1) = (lines source.toList).take (i + 1)) :
    (s.runSource other).run host w = (s.runSource source).run host w := by
  have alone : StopsAt s.selection
      (((lines source.toList).take (i + 1)).map Line.ofChars) i text := by
    refine stops.congr ?_
    rw [List.map_take, List.take_take, Nat.min_self]
  -- Each run is that of the lines up to the one where it stops.
  have cut : ∀ script : String, (lines script.toList).take (i + 1) =
      (lines source.toList).take (i + 1) → (s.takeLines .empty (parse script)).run host w =
        (s.takeLines .empty (numbered 1 ((lines source.toList).take (i + 1)))).run host w := by
    intro script top
    have split : parse script = numbered 1 ((lines source.toList).take (i + 1)) ++
        numbered (1 + ((lines source.toList).take (i + 1)).length)
          ((lines script.toList).drop (i + 1)) := by
      rw [← numbered_append, ← top, List.take_append_drop]
      rfl
    rw [split]
    refine takeLines_append_run_of_exit host s w _ _ ?_
    rw [(takeLines_ledger host s .empty _ w).1]
    have exited := (exitCode_iff_stopsAt host standard w _ _).mpr
      ⟨i, text, (map_snd_numbered 1 _).symm ▸ alone, rfl⟩
    rw [summaryOf] at exited
    rw [exited]
    exact Option.some_ne_none _
  rw [runSource_run, runSource_run, cut other same, cut source rfl]

end Session

end BuildScript
