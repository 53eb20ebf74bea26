import BuildScript.Proofs.Session.Composition

/-!
# The chronicle of a session

A session obeys commands, in any number and order: to run a script that is given as text, to run the
script file, to carry out one call, or to bind a name. Its chronicle lists its acts: the directives
that it carried out, each with its requests and its result, and between them what the session
asked for on its own account, which is the script file and the reports of lines. Every request of
the session is in the chronicle, in order (`chronicle_requests`).
-/

namespace BuildScript

open Script

variable {σ : Type}

/-- The directive that a call carries out: its name must be bound, and the number of its arguments
must fit. -/
def Vocabulary.directive? (v : Vocabulary) (call : Call) : Option Directive :=
  (v.get? call.name).bind fun binding =>
    if call.args.length = binding.arity then some binding.directive else none

/-- Something that a session did. -/
inductive Act where
  /-- A directive was carried out with these requests and this result. -/
  | carriedOut (directive : Directive) (requests : List Event) (result : Except CallError Flow)
  /-- The session made requests on its own account. -/
  | own (requests : List Event)

namespace Act

/-- The requests that were made, with their replies. -/
def requests : Act → List Event
  | .carriedOut _ requests _ | .own requests => requests

@[simp] theorem requests_own (requests : List Event) : (own requests).requests = requests := rfl

/-- What dispatching a call came to; a call that is refused carries nothing out. -/
def ofCall (v : Vocabulary) (call : Call) (requests : List Event) (result : Except CallError Flow) :
    Act :=
  match v.directive? call with
  | some directive => .carriedOut directive requests result
  | none => .own requests

@[simp] theorem ofCall_requests (v : Vocabulary) (call : Call) (requests : List Event)
    (result : Except CallError Flow) : (ofCall v call requests result).requests = requests := by
  unfold ofCall
  split <;> rfl

end Act

/-- Something that a session is told to do. -/
inductive Command where
  /-- Run a script that is given as text. -/
  | source (text : String)
  /-- Run the script file. -/
  | file
  | dispatch (call : Call)
  | register (name : String) (arity : Nat) (directive : Directive)

namespace Session

/-- Obeys a command. -/
def obey (s : Session) : Command → Plan Session
  | .source text => do return (← s.runSource text).2
  | .file => do return (← s.runFile).2
  | .dispatch call => do return (← s.dispatch call).2
  | .register name arity directive => return s.register name arity directive

/-- Obeys commands one after another. -/
def follow (s : Session) : List Command → Plan Session
  | [] => return s
  | command :: rest => do (← s.obey command).follow rest

/-! ## The acts of a command -/

/-- The acts that a line led to: its call, if it was dispatched, and its report. -/
def Entry.acts (v : Vocabulary) (entry : Entry) : List Act :=
  match entry.line, entry.deed with
  | .call call, .dispatched requests result =>
    [.ofCall v call requests result, .own entry.report]
  | _, _ => [.own entry.events]

theorem Entry.acts_requests (v : Vocabulary) (entry : Entry) :
    (entry.acts v).flatMap Act.requests = entry.events := by
  obtain ⟨number, line, deed⟩ := entry
  unfold acts
  split
  · rename_i call requests result _ dispatched
    subst dispatched
    simp [events, Deed.requests]
  · simp

/-- The acts of running a script that is given as text. -/
def sourceActs (s : Session) (host : Host σ) (w : σ) (text : String) : List Act :=
  (s.ledger host w (parse text)).flatMap (Entry.acts s.vocabulary)

/-- The acts of obeying a command. -/
def acts (s : Session) (host : Host σ) (w : σ) : Command → List Act
  | .source text => s.sourceActs host w text
  | .file =>
    let read := (readSource s.script).run host w
    .own (calls read.2.1) :: match read.1 with
      | .ok text => s.sourceActs host read.2.2 text
      | .error _ => []
  | .dispatch call =>
    let outcome := (s.dispatch call).run host w
    [.ofCall s.vocabulary call (calls outcome.2.1) outcome.1.1]
  | .register _ _ _ => []

/-- The acts of obeying commands one after another. -/
def chronicle (s : Session) (host : Host σ) (w : σ) : List Command → List Act
  | [] => []
  | command :: rest =>
    let obeyed := (s.obey command).run host w
    s.acts host w command ++ obeyed.1.chronicle host obeyed.2.2 rest

/-! ## All requests are in the chronicle -/

theorem sourceActs_requests (s : Session) (host : Host σ) (w : σ) (text : String) :
    calls ((s.runSource text).run host w).2.1 =
      (s.sourceActs host w text).flatMap Act.requests := by
  rw [runSource_requests, sourceActs, List.flatMap_assoc]
  simp only [Entry.acts_requests]

/-- A script file that cannot be used is read and that is all. -/
theorem obey_file_error (s : Session) (host : Host σ) (w : σ) {fault : Fault}
    (failed : ((readSource s.script).run host w).1 = .error fault) :
    (s.obey .file).run host w = (s, ((readSource s.script).run host w).2) := by
  show ((s.runFile).bind fun outcome => .done outcome.2).run host w = _
  rw [runFile, Plan.bind_eq, Plan.bind_assoc, Plan.run_bind]
  simp [failed, Plan.run]

/-- A script file that can be used is read, and then the script is run. -/
theorem obey_file_ok (s : Session) (host : Host σ) (w : σ) {text : String}
    (read : ((readSource s.script).run host w).1 = .ok text) :
    let rest := (s.runSource text).run host ((readSource s.script).run host w).2.2
    ((s.obey .file).run host w).1 = rest.1.2 ∧ ((s.obey .file).run host w).2.2 = rest.2.2 ∧
      calls ((s.obey .file).run host w).2.1 =
        calls ((readSource s.script).run host w).2.1 ++ calls rest.2.1 := by
  have unfolded : (s.obey .file).run host w =
      ((s.runFile).bind fun outcome => .done outcome.2).run host w := rfl
  rw [unfolded, runFile, Plan.bind_eq, Plan.bind_assoc, Plan.run_bind]
  simp [read, Plan.run, Plan.run_bind]

theorem acts_requests (s : Session) (host : Host σ) (w : σ) (command : Command) :
    calls ((s.obey command).run host w).2.1 = (s.acts host w command).flatMap Act.requests := by
  cases command with
  | register name arity directive => rfl
  | dispatch call => simp [obey, acts, Plan.run_bind, Plan.run]
  | source text =>
      rw [acts, ← sourceActs_requests, obey]
      simp [Plan.run_bind, Plan.run]
  | file =>
      simp only [acts]
      cases read : ((readSource s.script).run host w).1 with
      | error fault => simp [s.obey_file_error host w read]
      | ok text =>
          obtain ⟨-, -, requests⟩ := s.obey_file_ok host w read
          rw [requests, List.flatMap_cons, sourceActs_requests, Act.requests_own]

/-- Every request that a session makes while it obeys commands belongs to one of its acts. -/
theorem chronicle_requests (s : Session) (host : Host σ) (w : σ) (commands : List Command) :
    calls ((s.follow commands).run host w).2.1 =
      (s.chronicle host w commands).flatMap Act.requests := by
  induction commands generalizing s w with
  | nil => rfl
  | cons command rest ih =>
      rw [follow, Plan.bind_eq, Plan.run_bind, chronicle]
      simp only [calls_append, List.flatMap_append, acts_requests, ih]

end Session

end BuildScript
