import BuildScript.Host.Rehearsal
import BuildScript.Proofs.Action.Concern
import BuildScript.Proofs.Host.Outcomes
import BuildScript.Session

/-!
# Calls about different settings

Calls that configure a build may be reordered freely as long as those about one setting keep their
order. Each setting goes through the calls that are about it, as if there were no others
(`dispatchAll_stream`), so calls with the same streams come to the same settings and to the same
results (`dispatchAll_regroup`).
-/

namespace BuildScript.Session

open Script

variable {σ : Type}

/-- The setting that a call is about in the session's vocabulary, if it is about one alone. -/
def concern? (s : Session) (call : Call) : Option Concern :=
  (s.vocabulary.get? call.name).bind fun binding => binding.directive.concern?

/-- Dispatches calls one after another, whatever they come to, and lists their results. -/
def dispatchAll (s : Session) : List Call → Plan (List (Call × Except CallError Flow) × Session)
  | [] => return ([], s)
  | call :: rest => do
    let (result, s) ← s.dispatch call
    let (results, s) ← s.dispatchAll rest
    return ((call, result) :: results, s)

/-- The calls that are about `c`. -/
def stream (s : Session) (c : Concern) (ls : List Call) : List Call :=
  ls.filter fun call => s.concern? call = some c

/-- The results of the calls that are about `c`. -/
def streamResults (s : Session) (c : Concern) (results : List (Call × Except CallError Flow)) :
    List (Call × Except CallError Flow) :=
  results.filter fun result => s.concern? result.1 = some c

/-- The same session with other settings. -/
def withSettings (s : Session) (settings : Settings) : Session := { s with settings }

/-- A call about a setting comes to the same in all sessions that have this value of it, without a
request to the host, and all that it changes is this value. -/
theorem dispatch_concern (s : Session) (host : Host σ) {call : Call} {c : Concern}
    (concern : s.concern? call = some c) :
    ∃ effect : c.Value → Except CallError Flow × c.Value, ∃ trace, calls trace = [] ∧
      ∀ settings (w : σ), ((s.withSettings settings).dispatch call).run host w =
        (((Action.through c effect settings).1,
          s.withSettings (Action.through c effect settings).2), trace, w) := by
  obtain ⟨binding, bound, about⟩ := Option.bind_eq_some_iff.mp concern
  have found (settings : Settings) :
      (s.withSettings settings).vocabulary.get? call.name = some binding := bound
  by_cases fits : call.args.length = binding.arity
  · obtain ⟨effect, performed⟩ := Action.isAbout_action s.script call about
    refine ⟨effect, [.log .debug s!"{call.name}({Text.quotedList call.args})"], rfl, ?_⟩
    intro settings w
    have acted : (binding.directive.action (s.withSettings settings).script call).perform
        (s.withSettings settings).settings = _ := performed settings
    simp only [dispatch, found, if_pos fits, act, Plan.note, Plan.bind_eq, Plan.log_bind,
      Plan.done_bind, acted]
    rfl
  · refine ⟨fun value => (.error (.arity (call.mismatch binding.arity)), value), [], rfl, ?_⟩
    intro settings w
    simp only [dispatch, found, if_neg fits, Action.through, Concern.set_get]
    rfl

/-- Calls about settings make no request and change nothing but settings that calls can be about. -/
theorem dispatchAll_frame (s : Session) (settings : Settings) (host : Host σ) (w : σ)
    {ls : List Call} (concerned : ∀ call ∈ ls, (s.concern? call).isSome) :
    let outcome := ((s.withSettings settings).dispatchAll ls).run host w
    (outcome.1.2 = s.withSettings outcome.1.2.settings ∧
        outcome.1.2.settings.linkFlags = settings.linkFlags ∧
        outcome.1.2.settings.buildDir = settings.buildDir) ∧
      calls outcome.2.1 = [] ∧ outcome.2.2 = w := by
  induction ls generalizing settings with
  | nil => exact ⟨⟨rfl, rfl, rfl⟩, rfl, rfl⟩
  | cons call ls ih =>
      obtain ⟨here, below⟩ := List.forall_mem_cons.mp concerned
      obtain ⟨c, concern⟩ := Option.isSome_iff_exists.mp here
      obtain ⟨effect, trace, quiet, ran⟩ := s.dispatch_concern host concern
      obtain ⟨⟨session, linkFlags, buildDir⟩, silent, state⟩ :=
        ih (Action.through c effect settings).2 below
      simp only [dispatchAll, Plan.bind_eq, Plan.run_bind, ran, Plan.pure_eq, Plan.run,
        List.append_nil, calls_append, quiet, silent]
      refine ⟨⟨session, ?_, ?_⟩, trivial, state⟩
      · rw [linkFlags]
        exact Concern.linkFlags_set _ _ _
      · rw [buildDir]
        exact Concern.buildDir_set _ _ _

/-- Each setting goes through the calls that are about it, as if there were no others. -/
theorem dispatchAll_stream (s : Session) (c : Concern) {settings settings' : Settings}
    (same : c.get settings' = c.get settings) (host : Host σ) (w : σ) {ls : List Call}
    (concerned : ∀ call ∈ ls, (s.concern? call).isSome) :
    let all := ((s.withSettings settings).dispatchAll ls).run host w
    let alone := ((s.withSettings settings').dispatchAll (s.stream c ls)).run host w
    s.streamResults c all.1.1 = alone.1.1 ∧
      c.get alone.1.2.settings = c.get all.1.2.settings := by
  -- The two runs agree on the value of `c` before each call that is about it.
  induction ls generalizing settings settings' with
  | nil => exact ⟨rfl, same⟩
  | cons call ls ih =>
      obtain ⟨here, below⟩ := List.forall_mem_cons.mp concerned
      obtain ⟨d, concern⟩ := Option.isSome_iff_exists.mp here
      obtain ⟨effect, trace, -, ran⟩ := s.dispatch_concern host concern
      simp only [stream, streamResults, dispatchAll, Plan.bind_eq, Plan.run_bind, ran, Plan.pure_eq,
        Plan.run]
      by_cases own : d = c
      · subst own
        have next : d.get (Action.through d effect settings').2 =
            d.get (Action.through d effect settings).2 := by
          simp [Action.through, same]
        obtain ⟨results, value⟩ := ih next below
        have result : (Action.through d effect settings').1 =
            (Action.through d effect settings).1 := by
          simp [Action.through, same]
        rw [List.filter_cons_of_pos (by simpa using concern),
          List.filter_cons_of_pos (by simpa using concern)]
        simp only [dispatchAll, Plan.bind_eq, Plan.run_bind, ran, Plan.pure_eq, Plan.run, result]
        exact ⟨congrArg _ results, value⟩
      · have other : ¬ s.concern? call = some c := by
          rw [concern]
          exact fun equal => own (Option.some.inj equal)
        have kept : c.get settings' = c.get (Action.through d effect settings).2 := by
          rw [same, Action.through, Concern.get_set_of_ne (Ne.symm own)]
        rw [List.filter_cons_of_neg (by simpa using other),
          List.filter_cons_of_neg (by simpa using other)]
        exact ih kept below

/-- Two series of calls that are about settings, with the same stream of calls about each setting,
come to the same session from any session, so to the same command lines and the same report, and the
calls of each stream come to the same results. Neither makes a request of the host. -/
theorem dispatchAll_regroup (host : Host σ) (s : Session) (w : σ) (first second : List Call)
    (concerned : ∀ call ∈ first ++ second, (s.concern? call).isSome)
    (streams : ∀ c, s.stream c first = s.stream c second) :
    let one := (s.dispatchAll first).run host w
    let two := (s.dispatchAll second).run host w
    (one.1.2 = two.1.2 ∧
        (∀ source output, one.1.2.settings.compileArgs source output =
          two.1.2.settings.compileArgs source output) ∧
        one.1.2.settings.report = two.1.2.settings.report) ∧
      (∀ c, s.streamResults c one.1.1 = s.streamResults c two.1.1) ∧
      (calls one.2.1 = [] ∧ one.2.2 = w) ∧ calls two.2.1 = [] ∧ two.2.2 = w := by
  intro one two
  obtain ⟨inFirst, inSecond⟩ := List.forall_mem_append.mp concerned
  obtain ⟨⟨session, linkFlags, buildDir⟩, outside⟩ :=
    s.dispatchAll_frame s.settings host w inFirst
  obtain ⟨⟨session', linkFlags', buildDir'⟩, outside'⟩ :=
    s.dispatchAll_frame s.settings host w inSecond
  have same (c : Concern) : c.get s.settings = c.get s.settings := rfl
  have alone (c : Concern) := s.dispatchAll_stream c (same c) host w inFirst
  have alone' (c : Concern) := s.dispatchAll_stream c (same c) host w inSecond
  have values (c : Concern) : c.get one.1.2.settings = c.get two.1.2.settings := by
    have value := (alone c).2
    rw [streams c] at value
    exact value.symm.trans (alone' c).2
  have settings : one.1.2.settings = two.1.2.settings :=
    Settings.eq_of_get_eq values (linkFlags.trans linkFlags'.symm) (buildDir.trans buildDir'.symm)
  have sessions : one.1.2 = two.1.2 := by
    rw [show one.1.2 = _ from session, show two.1.2 = _ from session']
    exact congrArg s.withSettings settings
  refine ⟨⟨sessions, fun source output => by rw [settings], by rw [settings]⟩, fun c => ?_,
    outside, outside'⟩
  have results := (alone c).1
  rw [streams c] at results
  exact results.trans (alone' c).1.symm

/-- Two orders of calls about variables, flags and the verbose switch. One removal finds nothing,
and one call has an argument too many. -/
theorem dispatchAll_regroup_mixed :
    let s := start ⟨"build.samba"⟩ (.ofTargets [])
    let bare : Rehearsal := ⟨.empty, [], .empty, .empty, .empty, .empty, "0", []⟩
    let first : List Call := [⟨"remove_flag", ["-g"]⟩, ⟨"define_variable", ["A", "1"]⟩,
      ⟨"add_flag", ["-g"]⟩, ⟨"enable_verbose", ["on"]⟩, ⟨"remove_variable", ["A"]⟩]
    let second : List Call := [⟨"define_variable", ["A", "1"]⟩, ⟨"enable_verbose", ["on"]⟩,
      ⟨"remove_variable", ["A"]⟩, ⟨"remove_flag", ["-g"]⟩, ⟨"add_flag", ["-g"]⟩]
    let one := (s.dispatchAll first).run Rehearsal.host bare
    let two := (s.dispatchAll second).run Rehearsal.host bare
    one.1.2 = two.1.2 ∧ one.1.2.settings.flags = ["-g"] ∧
      (s.streamResults .flags two.1.1).map (fun result => (result.1.name, result.2.isOk)) =
        [("remove_flag", false), ("add_flag", true)] := by
  intro s bare first second one two
  have concerned : ∀ call ∈ first ++ second, (s.concern? call).isSome := by decide +kernel
  have streams : ∀ c, s.stream c first = s.stream c second := by
    intro c
    cases c <;> decide +kernel
  have flags : one.1.2.settings.flags = ["-g"] := by decide +kernel
  have found : (s.streamResults .flags one.1.1).map
      (fun result => (result.1.name, result.2.isOk)) =
        [("remove_flag", false), ("add_flag", true)] := by decide +kernel
  obtain ⟨⟨sessions, -⟩, results, -⟩ :=
    dispatchAll_regroup Rehearsal.host s bare first second concerned streams
  rw [results .flags] at found
  exact ⟨sessions, flags, found⟩

end BuildScript.Session
