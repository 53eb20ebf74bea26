import BuildScript.Proofs.Script.Segments
import BuildScript.Proofs.Session.Composition
import BuildScript.Proofs.Session.Frame
import Mathlib.Data.List.Induction

/-!
# The accounts of a run

What a run reports about itself is true. Its ledger has one entry for each line that it took, and
that entry is what the line was due, read off the text above and the requested targets
(`ledger_getElem?`): a call in scope is dispatched from where the run of the lines above has come to,
a call out of scope is skipped, a malformed line is reported in scope and passed over elsewhere. The
run takes every line up to the first dispatch that exits (`ledger_goesOn`, `ledger_complete`). The
summary counts the entries (`summaryOf_counts`, `exitCode_iff`), and the reports are those of the
entries that failed (`reports_eq`), with ascending line numbers (`faults_ascending`).
-/

namespace BuildScript

open Script Text

variable {σ : Type}

namespace Session

/-! ## What a line is due -/

/-- Where a run has come to after some lines: its session and the state of the host. -/
def reached (s : Session) (host : Host σ) (w : σ) (ls : List (Nat × Line)) : Session × σ :=
  let outcome := (s.takeLines .empty ls).run host w
  (outcome.1.2, outcome.2.2)

/-- What dispatching a call comes to. -/
def dispatched (host : Host σ) (place : Session × σ) (call : Call) : Deed :=
  let outcome := (place.1.dispatch call).run host place.2
  .dispatched (calls outcome.2.1) outcome.1.1

/-- What a line below the lines `above` is due, where `dispatch` is what a dispatched call comes
to. -/
def due (selection : Selection) (above : List Line) (dispatch : Call → Deed) : Line → Deed
  | .call call => if selection.InScope above then dispatch call else .skipped
  | .malformed error => if selection.InScope above then .refused error else .passed
  | .label _ | .blank | .comment => .passed

theorem deed_eq_due (s : Session) (host : Host σ) (w : σ) (line : Line) :
    (s.observe line).deed host w line = due s.selection [] (dispatched host (s, w)) line := by
  cases line with
  | blank => rfl
  | comment => rfl
  | label name => rfl
  | malformed error =>
      show (if s.selection.isActive = true then Deed.refused error else .passed) = _
      simp only [due, Selection.isActive_iff]
  | call call =>
      show (if s.selection.isActive = true then dispatched host (s, w) call else .skipped) = _
      simp only [due, Selection.isActive_iff]

/-- A line is due the same whether the lines above it were observed or are still to be looked at. -/
theorem due_cons (selection : Selection) (first : Line) (above : List Line) :
    due selection (first :: above) = due (selection.observe first) above := by
  funext dispatch line
  cases line <;> simp only [due, Selection.inScope_cons]

theorem reached_cons (s : Session) (host : Host σ) (w : σ) (number : Nat) (line : Line)
    (rest : List (Nat × Line)) :
    let taken := ((s.observe line).takeLine number line).run host w
    taken.1.1.exits = false →
      s.reached host w ((number, line) :: rest) = taken.1.2.reached host taken.2.2 rest := by
  intro taken goesOn
  have going : (Summary.empty.count taken.1.1).exitCode = none :=
    (Summary.count_going rfl taken.1.1).mpr goesOn
  have counted := taken.1.2.takeLines_plus (Summary.empty.count taken.1.1) .empty rest
  rw [Summary.plus_empty going] at counted
  simp only [reached, takeLines_cons, Plan.run_bind]
  simp only [taken] at goesOn counted ⊢
  rw [goesOn, if_neg Bool.false_ne_true, counted, Plan.run_bind]
  rfl

theorem reached_vocabulary (host : Host σ) (s : Session) (w : σ) (ls : List (Nat × Line)) :
    (s.reached host w ls).1.vocabulary = s.vocabulary :=
  (s.takeLines_vocabulary .empty ls).run host w

/-- The entry at a place is about the line at this place and does what that line is due. -/
theorem ledger_getElem? (s : Session) (host : Host σ) (w : σ) (ls : List (Nat × Line)) (i : Nat)
    (entry : Entry) (found : (s.ledger host w ls)[i]? = some entry) :
    ls[i]? = some (entry.number, entry.line) ∧
      entry.deed = due s.selection ((ls.take i).map Prod.snd)
        (dispatched host (s.reached host w (ls.take i))) entry.line := by
  -- The lines before the place are taken from `s` on; the induction moves `s` below the first.
  induction ls generalizing s w i with
  | nil => cases found
  | cons first ls ih =>
      obtain ⟨number, line⟩ := first
      rw [ledger] at found
      cases i with
      | zero =>
          obtain rfl : _ = entry := by simpa using found
          exact ⟨rfl, deed_eq_due s host w line⟩
      | succ i =>
          have kept : (((s.observe line).takeLine number line).run host w).1.2.selection =
              s.selection.observe line :=
            ((takeLine_frame _ _ _).run host w).selection
          have onward := s.reached_cons host w number line (ls.take i)
          simp only [List.getElem?_cons_succ] at found
          split at found
          · cases found
          · rename_i goesOn
            obtain ⟨here, deed⟩ := ih _ _ i found
            refine ⟨by simpa using here, ?_⟩
            rw [List.take_succ_cons, List.map_cons, due_cons, deed, kept,
              onward (by simpa using goesOn)]

/-- A run goes on after every entry but the last. -/
theorem ledger_goesOn (s : Session) (host : Host σ) (w : σ) (ls : List (Nat × Line)) :
    ∀ entry ∈ (s.ledger host w ls).dropLast, entry.deed.verdict.exits = false := by
  induction ls generalizing s w with
  | nil => simp [ledger]
  | cons first ls ih =>
      obtain ⟨number, line⟩ := first
      obtain ⟨verdict, -⟩ := (s.observe line).takeLine_deed host w number line
      rw [ledger]
      split
      · simp
      · rename_i goesOn
        have later := ih (((s.observe line).takeLine number line).run host w).1.2
          (((s.observe line).takeLine number line).run host w).2.2
        cases rest : (((s.observe line).takeLine number line).run host w).1.2.ledger host
            (((s.observe line).takeLine number line).run host w).2.2 ls with
        | nil => simp
        | cons second entries =>
            rw [rest] at later
            intro entry member
            obtain rfl | below := List.mem_cons.mp member
            · rw [← verdict]
              simpa using goesOn
            · exact later entry below

/-- A run that goes on after every entry takes every line. -/
theorem ledger_complete (s : Session) (host : Host σ) (w : σ) (ls : List (Nat × Line))
    (goesOn : ∀ entry ∈ s.ledger host w ls, entry.deed.verdict.exits = false) :
    (s.ledger host w ls).length = ls.length := by
  induction ls generalizing s w with
  | nil => rfl
  | cons first ls ih =>
      obtain ⟨number, line⟩ := first
      obtain ⟨verdict, -⟩ := (s.observe line).takeLine_deed host w number line
      rw [ledger] at goesOn ⊢
      have here := goesOn _ List.mem_cons_self
      rw [← verdict] at here
      simp only [here, if_neg Bool.false_ne_true] at goesOn ⊢
      exact congrArg Nat.succ (ih _ _ fun entry member => goesOn entry (.tail _ member))

/-! ## Counting entries -/

namespace Deed

/-- A call was dispatched and came back without an error. -/
def isCompleted : Deed → Bool
  | .dispatched _ (.ok _) => true
  | .dispatched _ (.error _) | .skipped | .refused _ | .passed => false

/-- A call was dispatched and came back with an error. -/
def isError : Deed → Bool
  | .dispatched _ (.error _) => true
  | .dispatched _ (.ok _) | .skipped | .refused _ | .passed => false

/-- A call was skipped. -/
def isSkipped : Deed → Bool
  | .skipped => true
  | .dispatched _ _ | .refused _ | .passed => false

/-- A malformed line was reported. -/
def isRefused : Deed → Bool
  | .refused _ => true
  | .dispatched _ _ | .skipped | .passed => false

end Deed

/-- What the run reports about the line: its number and a message. -/
def Entry.fault? (entry : Entry) : Option (Nat × String) :=
  entry.deed.message?.map fun message => (entry.number, message)

/-- The report of a numbered line. -/
def faultReport (fault : Nat × String) : Event := .call (.complain (lineReport fault.1 fault.2)) ()

/-- The summary of a run whose ledger has these entries. -/
def summaryOf (entries : List Entry) : Summary :=
  (entries.map fun entry => entry.deed.verdict).foldl Summary.count .empty

theorem summaryOf_concat (entries : List Entry) (entry : Entry) :
    summaryOf (entries ++ [entry]) = (summaryOf entries).count entry.deed.verdict := by
  simp [summaryOf]

/-- A line adds one to the count of its kind and nothing to the others. -/
theorem count_deed (summary : Summary) (deed : Deed) :
    (summary.count deed.verdict).executed =
        summary.executed + (if deed.isCompleted then 1 else 0) ∧
      (summary.count deed.verdict).skipped =
        summary.skipped + (if deed.isSkipped then 1 else 0) ∧
      (summary.count deed.verdict).failed =
        summary.failed + (if deed.isError then 1 else 0) + (if deed.isRefused then 1 else 0) := by
  cases deed with
  | skipped => exact ⟨rfl, rfl, rfl⟩
  | refused error => exact ⟨rfl, rfl, rfl⟩
  | passed => exact ⟨rfl, rfl, rfl⟩
  | dispatched requests result =>
      cases result with
      | error error => exact ⟨rfl, rfl, rfl⟩
      | ok flow =>
          cases flow with
          | proceed => exact ⟨rfl, rfl, rfl⟩
          | exit code => exact ⟨rfl, rfl, rfl⟩

theorem summaryOf_counts (entries : List Entry) :
    (summaryOf entries).executed = entries.countP (·.deed.isCompleted) ∧
      (summaryOf entries).skipped = entries.countP (·.deed.isSkipped) ∧
      (summaryOf entries).failed =
        entries.countP (·.deed.isError) + entries.countP (·.deed.isRefused) := by
  induction entries using List.reverseRecOn with
  | nil => exact ⟨rfl, rfl, rfl⟩
  | append_singleton entries entry ih =>
      obtain ⟨executed, skipped, failed⟩ := ih
      obtain ⟨executed', skipped', failed'⟩ := count_deed (summaryOf entries) entry.deed
      simp only [summaryOf_concat, List.countP_append, List.countP_singleton]
      refine ⟨?_, ?_, ?_⟩
      · rw [executed', executed]
      · rw [skipped', skipped]
      · rw [failed', failed]
        omega

theorem length_fault (entry : Entry) :
    ([entry].filterMap Entry.fault?).length =
      (if entry.deed.isError then 1 else 0) + (if entry.deed.isRefused then 1 else 0) := by
  obtain ⟨number, line, deed⟩ := entry
  cases deed with
  | skipped => rfl
  | refused error => rfl
  | passed => rfl
  | dispatched requests result => cases result <;> rfl

/-- As many lines are reported as the summary counts failed ones. -/
theorem length_faults (entries : List Entry) :
    (entries.filterMap Entry.fault?).length = (summaryOf entries).failed := by
  induction entries using List.reverseRecOn with
  | nil => rfl
  | append_singleton entries entry ih =>
      obtain ⟨-, -, failed⟩ := count_deed (summaryOf entries) entry.deed
      rw [List.filterMap_append, List.length_append, ih, length_fault, summaryOf_concat, failed,
        Nat.add_assoc]

theorem report_eq (entry : Entry) :
    entry.report = ([entry].filterMap Entry.fault?).map faultReport := by
  cases message : entry.deed.message? <;> simp [Entry.report, Entry.fault?, message, faultReport]

theorem reports_eq (entries : List Entry) :
    entries.flatMap Entry.report = (entries.filterMap Entry.fault?).map faultReport := by
  induction entries with
  | nil => rfl
  | cons entry entries ih =>
      rw [List.flatMap_cons, report_eq, ih, ← List.map_append, ← List.filterMap_append]
      rfl

theorem exitCode_of_goesOn (entries : List Entry)
    (goesOn : ∀ entry ∈ entries, entry.deed.verdict.exits = false) :
    (summaryOf entries).exitCode = none := by
  induction entries using List.reverseRecOn with
  | nil => rfl
  | append_singleton entries entry ih =>
      rw [summaryOf_concat]
      refine (Summary.count_going (ih fun earlier member => ?_) _).mpr ?_
      · exact goesOn earlier (List.mem_append_left _ member)
      · exact goesOn entry (List.mem_append_right _ (List.mem_singleton_self entry))

theorem goesOn_of_exitCode {entries : List Entry}
    (before : ∀ entry ∈ entries.dropLast, entry.deed.verdict.exits = false)
    (going : (summaryOf entries).exitCode = none) :
    ∀ entry ∈ entries, entry.deed.verdict.exits = false := by
  induction entries using List.reverseRecOn with
  | nil => exact List.forall_mem_nil _
  | append_singleton entries last _ =>
      rw [List.dropLast_concat] at before
      rw [summaryOf_concat, Summary.count_going (exitCode_of_goesOn entries before)] at going
      intro entry member
      obtain earlier | here := List.mem_append.mp member
      · exact before entry earlier
      · obtain rfl := List.mem_singleton.mp here
        exact going

/-- The exit code is that of the last entry. -/
theorem exitCode_iff (entries : List Entry)
    (goesOn : ∀ entry ∈ entries.dropLast, entry.deed.verdict.exits = false) (code : Int) :
    (summaryOf entries).exitCode = some code ↔
      ∃ last requests, entries.getLast? = some last ∧
        last.deed = .dispatched requests (.ok (.exit code)) := by
  induction entries using List.reverseRecOn with
  | nil => simp [summaryOf, Summary.empty]
  | append_singleton entries entry ih =>
      rw [List.dropLast_concat] at goesOn
      have before := exitCode_of_goesOn entries goesOn
      rw [summaryOf_concat, List.getLast?_concat]
      obtain ⟨number, line, deed⟩ := entry
      cases deed with
      | skipped => simp [Deed.verdict, Summary.count, before]
      | refused error => simp [Deed.verdict, Summary.count, before]
      | passed => simp [Deed.verdict, Summary.count, before]
      | dispatched requests result =>
          cases result with
          | error error => simp [Deed.verdict, Summary.count, before]
          | ok flow => cases flow <;> simp [Deed.verdict, Summary.count, before]

/-! ## The run of a script -/

theorem parse_eq_mapIdx (source : String) :
    parse source = (lines source.toList).mapIdx fun i text => (i + 1, Line.ofChars text) := by
  rw [parse, numbered_eq_mapIdx]
  congr 1
  funext i text
  rw [Nat.add_comm]

theorem map_snd_parse (source : String) :
    (parse source).map Prod.snd = (lines source.toList).map Line.ofChars :=
  map_snd_numbered 1 _

theorem parse_getElem? (source : String) (i number : Nat) (line : Line)
    (found : (parse source)[i]? = some (number, line)) :
    number = i + 1 ∧ ∃ text, (lines source.toList)[i]? = some text ∧ line = Line.ofChars text := by
  rw [parse_eq_mapIdx, List.getElem?_mapIdx, Option.map_eq_some_iff] at found
  obtain ⟨text, here, same⟩ := found
  obtain ⟨rfl, rfl⟩ := Prod.mk.inj same
  exact ⟨rfl, text, here, rfl⟩

/-- The entry at a place has the number and the text of the source line there. -/
theorem ledger_parse (s : Session) (host : Host σ) (w : σ) (source : String) (i : Nat)
    (entry : Entry) (found : (s.ledger host w (parse source))[i]? = some entry) :
    ∃ text, (lines source.toList)[i]? = some text ∧ entry.number = i + 1 ∧
      entry.line = Line.ofChars text ∧
      entry.deed = due s.selection (((lines source.toList).take i).map Line.ofChars)
        (dispatched host (s.reached host w ((parse source).take i))) entry.line := by
  obtain ⟨here, deed⟩ := s.ledger_getElem? host w (parse source) i entry found
  obtain ⟨number, text, there, line⟩ := parse_getElem? source i _ _ here
  rw [List.map_take, map_snd_parse, ← List.map_take] at deed
  exact ⟨text, there, number, line, deed⟩

theorem runSource_summary (host : Host σ) (s : Session) (w : σ) (source : String) :
    ((s.runSource source).run host w).1.1 = summaryOf (s.ledger host w (parse source)) := by
  rw [(runSource_outcome host s w source).1]
  exact (takeLines_ledger host s .empty (parse source) w).1

/-- Reports come with ascending line numbers. -/
theorem faults_ascending (s : Session) (host : Host σ) (w : σ) (source : String) :
    (((s.ledger host w (parse source)).filterMap Entry.fault?).map Prod.fst).Pairwise (· < ·) := by
  have ascending : (s.ledger host w (parse source)).Pairwise fun a b => a.number < b.number := by
    rw [List.pairwise_iff_getElem]
    intro i j hi hj before
    obtain ⟨-, -, number, -⟩ := s.ledger_parse host w source i _ (List.getElem?_eq_getElem hi)
    obtain ⟨-, -, number', -⟩ := s.ledger_parse host w source j _ (List.getElem?_eq_getElem hj)
    omega
  refine ascending_filterMap ascending fun entry fault found => ?_
  obtain ⟨message, -, rfl⟩ := Option.map_eq_some_iff.mp found
  rfl

/-- The accounts of a run are true. Its ledger has one entry for each line from the first on, up to
the dispatch that exits, or for all lines if there is none. Each entry has the number and the content
of its line and says what was done about it, which is what the line was due: a call in scope was
dispatched in the session and the state that the run of the lines above had come to, a call out of
scope was skipped, a malformed line in scope was refused, and nothing else was done.

The requests of the run are those of the dispatched calls, each followed by the report of its line if
there is one. The summary counts the calls that completed, those that were skipped, and those that
failed with the malformed lines in scope; the reports are as many as the last two kinds together and
have the ascending numbers of just these lines. The exit code is that of the last line that was
taken. -/
theorem runSource_accounts (host : Host σ) (s : Session) (w : σ) (source : String) :
    let outcome := (s.runSource source).run host w
    let summary := outcome.1.1
    let texts := lines source.toList
    let entries := s.ledger host w (parse source)
    let faults := entries.filterMap Entry.fault?
    ((∀ i entry, entries[i]? = some entry →
          ∃ text, texts[i]? = some text ∧ entry.number = i + 1 ∧ entry.line = Line.ofChars text ∧
            entry.deed = due s.selection ((texts.take i).map Line.ofChars)
              (dispatched host (s.reached host w ((parse source).take i))) entry.line) ∧
        (∀ entry ∈ entries.dropLast, entry.deed.verdict.exits = false) ∧
        ((∀ entry ∈ entries, entry.deed.verdict.exits = false) → entries.length = texts.length)) ∧
      calls outcome.2.1 = entries.flatMap (fun entry => entry.deed.requests ++ entry.report) ∧
      (summary.executed = entries.countP (·.deed.isCompleted) ∧
        summary.skipped = entries.countP (·.deed.isSkipped) ∧
        summary.failed = entries.countP (·.deed.isError) + entries.countP (·.deed.isRefused)) ∧
      (entries.flatMap Entry.report = faults.map faultReport ∧ summary.failed = faults.length ∧
        (faults.map Prod.fst).Pairwise (· < ·)) ∧
      ∀ code, summary.exitCode = some code ↔
        ∃ last requests, entries.getLast? = some last ∧
          last.deed = .dispatched requests (.ok (.exit code)) := by
  intro outcome summary texts entries faults
  obtain ⟨result, -, requests⟩ := runSource_outcome host s w source
  obtain ⟨counted, events⟩ := takeLines_ledger host s .empty (parse source) w
  have total : summary = summaryOf entries := (congrArg Prod.fst result).trans counted
  have goesOn := s.ledger_goesOn host w (parse source)
  refine ⟨⟨s.ledger_parse host w source, goesOn, fun all => ?_⟩, requests.trans events, ?_, ?_, ?_⟩
  · rw [s.ledger_complete host w (parse source) all, parse_eq_mapIdx, List.length_mapIdx]
  · rw [total]
    exact summaryOf_counts entries
  · rw [total]
    exact ⟨reports_eq entries, (length_faults entries).symm, s.faults_ascending host w source⟩
  · rw [total]
    exact exitCode_iff entries goesOn

/-- A script with a line of each kind in a segment that is requested and in one that is not. -/
def mixedScript : String :=
  "printfn(a)\nhalt()\nother:\nprintfn(b)\nhm\nrelease:\nhm\nexit(3)\nhalt()\n"

/-- Two calls complete, one fails and one is skipped; of the two malformed lines the first is passed
over; the line below the exit is not taken. -/
theorem runSource_accounts_mixed :
    let s := start ⟨"build.samba"⟩ (.ofTargets ["release"])
    let bare : Rehearsal := ⟨.empty, [], .empty, .empty, .empty, .empty, "0", []⟩
    let outcome := (s.runSource mixedScript).run Rehearsal.host bare
    let entries := s.ledger Rehearsal.host bare (parse mixedScript)
    outcome.1.1 = ⟨2, 1, 2, some 3⟩ ∧ entries.length = 8 ∧
      (entries.filterMap Entry.fault?).map Prod.fst = [2, 7] ∧
      ∃ last requests, entries.getLast? = some last ∧
        last.deed = .dispatched requests (.ok (.exit 3)) := by
  intro s bare outcome entries
  have counts : outcome.1.1 = ⟨2, 1, 2, some 3⟩ := rfl
  have taken : entries.length = 8 := by decide +kernel
  have reported : (entries.filterMap Entry.fault?).map Prod.fst = [2, 7] := by decide +kernel
  obtain ⟨-, -, -, -, exit⟩ := runSource_accounts Rehearsal.host s bare mixedScript
  exact ⟨counts, taken, reported, (exit 3).mp (congrArg Summary.exitCode counts)⟩

end Session

end BuildScript
