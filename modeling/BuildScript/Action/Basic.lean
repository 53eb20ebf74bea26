import BuildScript.Host.Plan
import BuildScript.Script.Call
import BuildScript.Settings

/-!
# Actions

An action is what a call of a directive does. It may read and change the settings, make requests
of the host, and fail with a `CallError`. Settings that were changed before a failure stay
changed, so an action that is to fail without a trace must change them last.

`Action.perform` turns an action into a plan, and what it makes of every elementary action is
stated beside them: `perform_bind` for two actions in a row, `perform_attempt` for a request that
may fail, and so on.
-/

namespace BuildScript

open Script

/-- Why a call did not complete. -/
inductive CallError where
  /-- No directive has this name. -/
  | unknown (name : String)
  | arity (mismatch : ArityMismatch)
  /-- The action gave up. -/
  | failed (message : String)
  deriving DecidableEq, Repr

namespace CallError

/-- The wording of a call error. -/
def message : CallError → String
  | unknown name => s!"Unknown directive: {name}"
  | arity mismatch => mismatch.message
  | failed message => message

variable {α : Type}

/-- A result, where a failure says what was attempted and then why it failed. -/
def explain (context : String) : Except String α → Except CallError α
  | .ok a => .ok a
  | .error cause => .error (failed s!"{context}: {cause}")

/-- A value that must be there. -/
def demand (message : String) : Option α → Except CallError α
  | some a => .ok a
  | none => .error (failed message)

end CallError

/-- What follows a call that completed. -/
inductive Flow where
  | proceed
  | exit (code : Int)
  deriving DecidableEq, Repr

/-- What a call does. -/
abbrev Action := ExceptT CallError (StateT Settings Plan)

namespace Action

variable {α β : Type}

/-- Carries an action out from given settings. -/
def perform (action : Action α) (settings : Settings) : Plan (Except CallError α × Settings) :=
  action.run.run settings

/-- Shows a line on standard output. -/
def print (text : String) : Action Unit := liftM (Plan.print text)

/-- Shows a line on standard error. -/
def complain (text : String) : Action Unit := liftM (Plan.complain text)

/-- Writes a log record. -/
def note (level : Level) (text : String) : Action Unit := liftM (Plan.note level text)

/-- Shows lines on standard output. -/
def printAll (texts : List String) : Action Unit := texts.forM print

/-- Carries out a plan that may fail; `context` says what it was for. -/
def attempt (context : String) (plan : Plan (Except Fault α)) : Action α := do
  let outcome ← (liftM plan : Action (Except Fault α))
  liftExcept (CallError.explain context (outcome.mapError Fault.message))
where
  /-- A result as an action. -/
  liftExcept : Except CallError α → Action α
    | .ok a => pure a
    | .error e => throw e

/-- The failure of a call with the wrong number of arguments. -/
def wrongCount (call : Call) (expected : Nat) : Action α := throw (.arity (call.mismatch expected))

/-- The failure of an action that gives up. -/
def fail (message : String) : Action α := throw (.failed message)

/-! ## What performing an action comes to -/

/-- Goes on after an action: its error stands, and its result is passed to the next action. -/
def resume (f : α → Action β) : Except CallError α × Settings → Plan (Except CallError β × Settings)
  | (.ok a, s) => (f a).perform s
  | (.error e, s) => .done (.error e, s)

@[simp] theorem resume_ok (f : α → Action β) (a : α) (s : Settings) :
    resume f (.ok a, s) = (f a).perform s := rfl

@[simp] theorem resume_error (f : α → Action β) (e : CallError) (s : Settings) :
    resume f (.error e, s) = .done (.error e, s) := rfl

@[simp] theorem perform_pure (a : α) (s : Settings) :
    (pure a : Action α).perform s = .done (.ok a, s) := rfl

@[simp] theorem perform_throw (e : CallError) (s : Settings) :
    (throw e : Action α).perform s = .done (.error e, s) := rfl

/-- Performing two actions in a row performs the second after the first. -/
@[simp] theorem perform_bind (x : Action α) (f : α → Action β) (s : Settings) :
    (x >>= f).perform s = (x.perform s).bind (resume f) := by
  change Plan.bind (x.run.run s) _ = _
  congr 1
  funext r
  rcases r with ⟨_ | _, _⟩ <;> rfl

@[simp] theorem perform_map (g : α → β) (x : Action α) (s : Settings) :
    (g <$> x).perform s = (x.perform s).bind (resume fun a => pure (g a)) := by
  rw [← bind_pure_comp, perform_bind]

@[simp] theorem perform_get (s : Settings) :
    (get : Action Settings).perform s = .done (.ok s, s) := rfl

@[simp] theorem perform_set (next s : Settings) :
    (set next : Action PUnit).perform s = .done (.ok (), next) := rfl

@[simp] theorem perform_modify (f : Settings → Settings) (s : Settings) :
    (modify f : Action PUnit).perform s = .done (.ok (), f s) := rfl

/-- A plan as part of an action leaves the settings alone. -/
@[simp] theorem perform_liftM (p : Plan α) (s : Settings) :
    (liftM p : Action α).perform s = p.bind fun a => .done (.ok a, s) := by
  change (p.bind _).bind _ = _
  rw [Plan.bind_assoc]
  rfl

@[simp] theorem perform_print (text : String) (s : Settings) :
    (print text).perform s = .ask (.print text) fun _ => .done (.ok (), s) := rfl

@[simp] theorem perform_complain (text : String) (s : Settings) :
    (complain text).perform s = .ask (.complain text) fun _ => .done (.ok (), s) := rfl

@[simp] theorem perform_note (level : Level) (text : String) (s : Settings) :
    (note level text).perform s = .log level text (.done (.ok (), s)) := rfl

@[simp] theorem perform_attempt (context : String) (p : Plan (Except Fault α)) (s : Settings) :
    (attempt context p).perform s = p.bind fun outcome =>
      .done (CallError.explain context (outcome.mapError Fault.message), s) := by
  simp only [attempt, perform_bind, perform_liftM, Plan.bind_assoc, Plan.done_bind, resume_ok]
  congr 1
  funext outcome
  cases outcome <;> rfl

@[simp] theorem perform_fail (message : String) (s : Settings) :
    (fail message : Action α).perform s = .done (.error (.failed message), s) := rfl

@[simp] theorem perform_wrongCount (call : Call) (n : Nat) (s : Settings) :
    (wrongCount call n : Action α).perform s = .done (.error (.arity (call.mismatch n)), s) := rfl

end Action

end BuildScript
