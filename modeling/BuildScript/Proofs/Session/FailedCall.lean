import BuildScript.Host.Rehearsal
import BuildScript.Proofs.Action.CleanFailure
import BuildScript.Session

/-!
# Failed calls leave no trace in a session

Whatever a session holds, whatever its vocabulary binds and whatever the host answers: a call that
fails leaves the session as it was. A call that was refused, because its name is unknown or the
number of its arguments is wrong, has not even made a request. The second kind of refusal may come
from the session or from the action itself, when the vocabulary binds a directive with an arity
that is not its own.
-/

namespace BuildScript.Session

open Script

variable {σ : Type}

/-- A session changes only the settings when it carries out an action, so a tidy action that fails
changes nothing. -/
theorem act_tidy (s : Session) (directive : Directive) (call : Call) :
    (s.act directive call).Ensures fun trace outcome =>
      ∀ e, outcome.1 = .error e →
        outcome.2 = s ∧ ((∃ message, e = .failed message) ∨ calls trace = []) := by
  refine (Action.tidy_action s.script call directive s.settings).bind fun trace outcome tidy => ?_
  obtain ⟨result, settings⟩ := outcome
  intro e failed
  obtain ⟨same, kind⟩ := tidy e failed
  refine ⟨?_, ?_⟩
  · rw [show settings = s.settings from same]
  · simpa using kind

theorem dispatch_tidy (s : Session) (call : Call) :
    (s.dispatch call).Ensures fun trace outcome =>
      ∀ e, outcome.1 = .error e →
        outcome.2 = s ∧ ((∃ message, e = .failed message) ∨ calls trace = []) := by
  unfold dispatch
  split
  · exact fun e _ => ⟨rfl, .inr rfl⟩
  · split
    · exact s.act_tidy _ call
    · exact fun e _ => ⟨rfl, .inr rfl⟩

/-- A call that fails leaves the session as it was: its settings, its script, its selection and its
vocabulary. Unless the action itself gave up, no request was made either. -/
theorem dispatch_error_unchanged (host : Host σ) (s : Session) (call : Call) (w : σ)
    (error : CallError) (failed : ((s.dispatch call).run host w).1.1 = .error error) :
    ((s.dispatch call).run host w).1.2 = s ∧
      ((∃ message, error = .failed message) ∨ calls ((s.dispatch call).run host w).2.1 = []) :=
  (s.dispatch_tidy call).run host w error failed

/-- A session in which `halt` is the directive `exit` with an arity that is not its own. -/
def haltingSession : Session :=
  (start ⟨"build.samba"⟩ (.ofTargets ["release"])).register "halt" 2 .exit

/-- A rehearsal whose package database prints words and then fails. -/
def brokenDatabase : Rehearsal :=
  ⟨.empty, [], .empty, .ofList [(Action.packageDatabase, [⟨"-lgtk -lz", "no gtk", 1⟩])], .empty,
    .empty, "0", []⟩

/-- The action itself refuses the first call, without a request; the second gives up after its
program has printed words, and none of them is kept. -/
theorem halt_and_find_library_unchanged :
    let halted := (haltingSession.dispatch ⟨"halt", ["1", "2"]⟩).run Rehearsal.host brokenDatabase
    let lost := (haltingSession.dispatch ⟨"find_library", ["gtk"]⟩).run Rehearsal.host brokenDatabase
    (halted.1.1 = .error (.arity ⟨"halt", 1, 2⟩) ∧ halted.1.2 = haltingSession ∧
        calls halted.2.1 = []) ∧
      lost.1.1 = .error (.failed "pkg-config could not find 'gtk': no gtk") ∧
        lost.1.2 = haltingSession := by
  intro halted lost
  have refused : halted.1.1 = .error (.arity ⟨"halt", 1, 2⟩) := rfl
  have gaveUp : lost.1.1 = .error (.failed "pkg-config could not find 'gtk': no gtk") := rfl
  obtain ⟨same, kind⟩ := dispatch_error_unchanged _ _ _ _ _ refused
  refine ⟨⟨refused, same, ?_⟩, gaveUp, (dispatch_error_unchanged _ _ _ _ _ gaveUp).1⟩
  rcases kind with ⟨message, impossible⟩ | silent
  · cases impossible
  · exact silent

end BuildScript.Session
