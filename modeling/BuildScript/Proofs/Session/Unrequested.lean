import BuildScript.Proofs.Script.Segments
import BuildScript.Proofs.Session.Composition
import BuildScript.Proofs.Session.Frame

/-!
# Text that no target asks for

What stands in a segment whose label is not requested may be anything: unknown directives, malformed
lines, calls of `exit`. As long as it is no label, a run does the same with it as with any other text
in its place. Only the number of skipped calls can tell.

* **one line** (`takeLine_outside`): out of scope a line that is no label makes no request and
  changes nothing;
* **all lines** (`takeLines_agree`): two lists of lines that agree wherever the selection looks are
  taken in lock step.
-/

namespace BuildScript

open Script Text

variable {σ : Type}

/-- The lines agree wherever the selection looks: at each place they are the same, or neither is a
label and the label in force there is not requested. -/
structure Selection.Agree (selection : Selection) (first second : List (List Char)) : Prop where
  height : first.length = second.length
  line : ∀ i text text', first[i]? = some text → second[i]? = some text' →
    text = text' ∨ (Line.ofChars text).label? = none ∧ (Line.ofChars text').label? = none ∧
      ¬ selection.InScope ((first.take i).map Line.ofChars)

/-- The lines below a first pair agree for the selection that has observed it. -/
theorem Selection.Agree.tail {selection : Selection} {text text' : List Char}
    {first second : List (List Char)} (agree : selection.Agree (text :: first) (text' :: second)) :
    (selection.observe (Line.ofChars text)).Agree first second where
  height := by simpa using agree.height
  line i below below' here here' := by
    have lower := agree.line (i + 1) below below' (by simpa using here) (by simpa using here')
    rwa [List.take_succ_cons, List.map_cons, Selection.inScope_cons] at lower

theorem Selection.Agree.nil (selection : Selection) : selection.Agree [] [] := ⟨rfl, by simp⟩

theorem Selection.Agree.cons {selection : Selection} {text text' : List Char}
    {first second : List (List Char)}
    (here : text = text' ∨ (Line.ofChars text).label? = none ∧
      (Line.ofChars text').label? = none ∧ ¬ selection.InScope [])
    (below : (selection.observe (Line.ofChars text)).Agree first second) :
    selection.Agree (text :: first) (text' :: second) where
  height := congrArg Nat.succ below.height
  line i lower lower' found found' := by
    cases i with
    | zero =>
        obtain rfl : text = lower := by simpa using found
        obtain rfl : text' = lower' := by simpa using found'
        exact here
    | succ i =>
        have agreed := below.line i lower lower' (by simpa using found) (by simpa using found')
        rwa [← Selection.inScope_cons] at agreed

/-- The summaries differ at most in the number of skipped calls. -/
def Summary.SameButSkipped (first second : Summary) : Prop :=
  ∃ skipped, second = { first with skipped }

theorem Summary.SameButSkipped.count {first second : Summary} (same : first.SameButSkipped second)
    (verdict : Verdict) : (first.count verdict).SameButSkipped (second.count verdict) := by
  obtain ⟨skipped, rfl⟩ := same
  cases verdict with
  | skipped => exact ⟨skipped + 1, rfl⟩
  | executed => exact ⟨skipped, rfl⟩
  | failed => exact ⟨skipped, rfl⟩
  | exited code => exact ⟨skipped, rfl⟩
  | quiet => exact ⟨skipped, rfl⟩

namespace Session

/-- What becomes of a line that is passed over shows in the number of skipped calls or not at all. -/
def PassedOver (verdict : Verdict) : Prop := verdict = .skipped ∨ verdict = .quiet

theorem PassedOver.goesOn {verdict : Verdict} (passed : PassedOver verdict) :
    verdict.exits = false := by
  obtain rfl | rfl := passed <;> rfl

theorem PassedOver.sameButSkipped {first second : Summary} {verdict verdict' : Verdict}
    (same : first.SameButSkipped second) (passed : PassedOver verdict)
    (passed' : PassedOver verdict') :
    (first.count verdict).SameButSkipped (second.count verdict') := by
  obtain ⟨skipped, rfl⟩ := same
  obtain rfl | rfl := passed <;> obtain rfl | rfl := passed' <;> exact ⟨_, rfl⟩

/-- A line out of scope that is no label makes no request and changes nothing. -/
theorem takeLine_outside (host : Host σ) (s : Session) (w : σ) (number : Nat) {line : Line}
    (plain : line.label? = none) (outside : s.selection.isActive = false) :
    ∃ verdict trace, PassedOver verdict ∧ calls trace = [] ∧
      ((s.observe line).takeLine number line).run host w = ((verdict, s), trace, w) := by
  have unmoved : s.observe line = s := by
    rw [observe, Selection.observe_of_label?_eq_none _ plain]
  rw [unmoved]
  cases line with
  | label name => cases plain
  | blank => exact ⟨.quiet, [], .inr rfl, rfl, rfl⟩
  | comment => exact ⟨.quiet, [], .inr rfl, rfl, rfl⟩
  | malformed error =>
      refine ⟨.quiet, [], .inr rfl, rfl, ?_⟩
      simp only [takeLine, outside]
      rfl
  | call call =>
      obtain ⟨text, taken⟩ : ∃ text, (s.takeLine number (.call call)).run host w =
          ((.skipped, s), [.log .trace text], w) := by
        simp only [takeLine, outside]
        exact ⟨_, rfl⟩
      exact ⟨.skipped, _, .inl rfl, rfl, taken⟩

/-- Two lists of lines that agree for the selection are taken in lock step. -/
theorem takeLines_agree (host : Host σ) (number : Nat) (s : Session) (w : σ)
    {summary summary' : Summary} (same : summary.SameButSkipped summary')
    {first second : List (List Char)} (agree : s.selection.Agree first second) :
    let one := (s.takeLines summary (numbered number first)).run host w
    let two := (s.takeLines summary' (numbered number second)).run host w
    one.1.1.SameButSkipped two.1.1 ∧ two.1.2 = one.1.2 ∧ two.2.2 = one.2.2 ∧
      calls two.2.1 = calls one.2.1 := by
  -- The session and the host's state are the same in both runs at every line.
  induction first generalizing number s w summary summary' second with
  | nil =>
      have empty : second = [] := List.eq_nil_of_length_eq_zero agree.height.symm
      subst empty
      exact ⟨same, rfl, rfl, rfl⟩
  | cons text first ih =>
      obtain ⟨text', second, rfl⟩ : ∃ text' rest, second = text' :: rest :=
        List.exists_cons_of_length_pos (by rw [← agree.height]; exact Nat.succ_pos _)
      simp only [numbered, takeLines_cons, Plan.run_bind, calls_append]
      obtain rfl | ⟨plain, plain', hidden⟩ := agree.line 0 text text' rfl rfl
      · have kept : ((((s.observe (Line.ofChars text)).takeLine number (Line.ofChars text)).run
            host w).1.2).selection = s.selection.observe (Line.ofChars text) :=
          ((takeLine_frame _ _ _).run host w).selection
        generalize ((s.observe (Line.ofChars text)).takeLine number (Line.ofChars text)).run
          host w = taken at *
        cases exits : taken.1.1.exits with
        | true => exact ⟨same.count _, rfl, rfl, rfl⟩
        | false =>
            obtain ⟨summaries, sessions, states, requests⟩ :=
              ih (number + 1) taken.1.2 taken.2.2 (same.count taken.1.1) (kept ▸ agree.tail)
            exact ⟨summaries, sessions, states, congrArg _ requests⟩
      · have outside : s.selection.isActive = false := by
          rw [← Bool.not_eq_true, Selection.isActive_iff]
          exact hidden
        obtain ⟨verdict, trace, passed, silent, taken⟩ :=
          s.takeLine_outside host w number plain outside
        obtain ⟨verdict', trace', passed', silent', taken'⟩ :=
          s.takeLine_outside host w number plain' outside
        have lower := agree.tail
        rw [Selection.observe_of_label?_eq_none _ plain] at lower
        simp only [taken, taken', silent, silent', passed.goesOn, passed'.goesOn,
          List.nil_append]
        exact ih (number + 1) s w (passed.sameButSkipped same passed') lower

/-- Text in segments that are not requested has no effect: two scripts of the same height whose lines
agree wherever the selection looks make the same requests in the same order, leave the same session
and the same state of the host, and come to the same counts of executed and failed lines and the same
exit code. -/
theorem runSource_agree (host : Host σ) (s : Session) (w : σ) (first second : String)
    (agree : s.selection.Agree (lines first.toList) (lines second.toList)) :
    let one := (s.runSource first).run host w
    let two := (s.runSource second).run host w
    calls two.2.1 = calls one.2.1 ∧ two.1.2 = one.1.2 ∧ two.2.2 = one.2.2 ∧
      two.1.1.executed = one.1.1.executed ∧ two.1.1.failed = one.1.1.failed ∧
      two.1.1.exitCode = one.1.1.exitCode := by
  intro one two
  have start : Summary.empty.SameButSkipped .empty := ⟨0, rfl⟩
  obtain ⟨⟨skipped, summary⟩, session, state, requests⟩ := takeLines_agree host 1 s w start agree
  obtain ⟨one_result, one_state, one_calls⟩ := runSource_outcome host s w first
  obtain ⟨two_result, two_state, two_calls⟩ := runSource_outcome host s w second
  have counts : two.1.1 = { one.1.1 with skipped } := by
    rw [two_result, one_result]
    exact summary
  refine ⟨?_, ?_, ?_, ?_, ?_, ?_⟩
  · rw [two_calls, one_calls]
    exact requests
  · rw [two_result, one_result]
    exact session
  · rw [two_state, one_state]
    exact state
  · rw [counts]
  · rw [counts]
  · rw [counts]

/-- A session that an earlier script has left in the segment `other`. -/
def otherSegment : Session :=
  { start ⟨"build.samba"⟩ (.ofTargets ["release"]) with
    selection := ⟨["release"], some "other"⟩ }

/-- A segment that no target asks for holds calls in one script, and in the other an `exit` and a
malformed line. The requested label below ends it. -/
theorem runSource_agree_other :
    let bare : Rehearsal := ⟨.empty, [], .empty, .empty, .empty, .empty, "0", []⟩
    let one := (otherSegment.runSource "printfn(a)\nprintfn(b)\nrelease:\nhalt()\n").run
      Rehearsal.host bare
    let two := (otherSegment.runSource "exit(3)\nprintfn(\nrelease:\nhalt()\n").run
      Rehearsal.host bare
    one.1.1 = ⟨0, 2, 1, none⟩ ∧ two.1.1 = ⟨0, 1, 1, none⟩ ∧
      calls one.2.1 = [.call (.complain "line 4: Unknown directive: halt") ()] ∧
      calls two.2.1 = calls one.2.1 ∧ two.1.2 = one.1.2 ∧ two.2.2 = one.2.2 := by
  intro bare one two
  have agree : otherSegment.selection.Agree
      (lines "printfn(a)\nprintfn(b)\nrelease:\nhalt()\n".toList)
      (lines "exit(3)\nprintfn(\nrelease:\nhalt()\n".toList) := by
    have first : lines "printfn(a)\nprintfn(b)\nrelease:\nhalt()\n".toList =
        ["printfn(a)".toList, "printfn(b)".toList, "release:".toList, "halt()".toList] := rfl
    have second : lines "exit(3)\nprintfn(\nrelease:\nhalt()\n".toList =
        ["exit(3)".toList, "printfn(".toList, "release:".toList, "halt()".toList] := rfl
    rw [first, second]
    refine .cons (.inr ⟨rfl, rfl, by decide⟩) (.cons (.inr ⟨rfl, rfl, by decide⟩) ?_)
    exact .cons (.inl rfl) (.cons (.inl rfl) (.nil _))
  have counts : one.1.1 = ⟨0, 2, 1, none⟩ := rfl
  have counts' : two.1.1 = ⟨0, 1, 1, none⟩ := rfl
  have shown : calls one.2.1 = [.call (.complain "line 4: Unknown directive: halt") ()] := rfl
  obtain ⟨requests, session, state, -⟩ := runSource_agree Rehearsal.host otherSegment bare
    "printfn(a)\nprintfn(b)\nrelease:\nhalt()\n" "exit(3)\nprintfn(\nrelease:\nhalt()\n" agree
  exact ⟨counts, counts', shown, requests, session, state⟩

end Session

end BuildScript
