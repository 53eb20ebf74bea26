import BuildScript.Host.Request

/-!
# Plans

A plan is what a build does, as data: it ends with a result, writes a log record and goes on, or
makes a request and goes on in a way that depends on the reply. A plan has no effect of its own,
so everything about it holds for every host. `Plan.run` carries a plan out on a host with a state
and keeps the trace of what happened.

The main statements are that plans form a lawful monad and that running one plan after another
runs the two in turn (`Plan.run_bind`).
-/

namespace BuildScript

/-- How much a log record matters. -/
inductive Level where
  | error
  | warn
  | info
  | debug
  | trace
  deriving DecidableEq, Repr

namespace Level

/-- How a level is written. -/
def name : Level → String
  | error => "ERROR"
  | warn => "WARN"
  | info => "INFO"
  | debug => "DEBUG"
  | trace => "TRACE"

/-- How far a level is from the most important one. -/
def rank : Level → Nat
  | error => 0
  | warn => 1
  | info => 2
  | debug => 3
  | trace => 4

end Level

/-- What a build does until it ends with an `α`. -/
inductive Plan (α : Type) where
  | done (result : α)
  | log (level : Level) (text : String) (rest : Plan α)
  | ask (request : Request) (next : request.Reply → Plan α)

namespace Plan

variable {α β γ σ : Type}

/-- One plan, and then another that depends on its result. -/
def bind : Plan α → (α → Plan β) → Plan β
  | .done a, f => f a
  | .log level text rest, f => .log level text (rest.bind f)
  | .ask request next, f => .ask request fun reply => (next reply).bind f

instance : Monad Plan where
  pure := .done
  bind := bind

instance [Inhabited α] : Inhabited (Plan α) := ⟨.done default⟩

/-- The plan of a single request. -/
@[simp] def request (r : Request) : Plan r.Reply := .ask r .done

/-- The plan of a single log record. -/
@[simp] def note (level : Level) (text : String) : Plan Unit := .log level text (.done ())

/-- Shows a line on standard output. -/
def print (text : String) : Plan Unit := request (.print text)

/-- Shows a line on standard error. -/
def complain (text : String) : Plan Unit := request (.complain text)

/-! ## Plans are a monad -/

@[simp] theorem pure_eq (a : α) : (pure a : Plan α) = .done a := rfl

@[simp] theorem bind_eq (p : Plan α) (f : α → Plan β) : p >>= f = p.bind f := rfl

@[simp] theorem done_bind (a : α) (f : α → Plan β) : (Plan.done a).bind f = f a := rfl

@[simp] theorem log_bind (level : Level) (text : String) (p : Plan α) (f : α → Plan β) :
    (Plan.log level text p).bind f = .log level text (p.bind f) := rfl

@[simp] theorem ask_bind (r : Request) (next : r.Reply → Plan α) (f : α → Plan β) :
    (Plan.ask r next).bind f = .ask r fun reply => (next reply).bind f := rfl

theorem bind_done (p : Plan α) : p.bind .done = p := by
  induction p with
  | done a => rfl
  | log level text p ih => simp [ih]
  | ask r next ih => simp [ih]

theorem bind_assoc (p : Plan α) (f : α → Plan β) (g : β → Plan γ) :
    (p.bind f).bind g = p.bind fun a => (f a).bind g := by
  induction p with
  | done a => rfl
  | log level text p ih => simp [ih]
  | ask r next ih => simp [ih]

instance : LawfulMonad Plan := .mk' Plan bind_done (fun _ _ => rfl) bind_assoc

end Plan

/-! ## Carrying a plan out -/

/-- One thing that happened while a plan was carried out. -/
inductive Event where
  | log (level : Level) (text : String)
  | call (request : Request) (reply : request.Reply)

/-- A host answers every request out of its state and may change the state. -/
structure Host (σ : Type) where
  answer : (request : Request) → σ → request.Reply × σ

namespace Plan

variable {α β σ : Type}

/-- Carries a plan out: its result, what happened, and the state of the host afterwards. -/
def run (host : Host σ) : Plan α → σ → α × List Event × σ
  | .done a, s => (a, [], s)
  | .log level text rest, s =>
    let (a, trace, s) := rest.run host s
    (a, .log level text :: trace, s)
  | .ask r next, s =>
    let (reply, s) := host.answer r s
    let (a, trace, s) := (next reply).run host s
    (a, .call r reply :: trace, s)

/-- Running one plan after another runs the two in turn. -/
theorem run_bind (host : Host σ) (p : Plan α) (f : α → Plan β) (s : σ) :
    (p.bind f).run host s =
      let first := p.run host s
      let second := (f first.1).run host first.2.2
      (second.1, first.2.1 ++ second.2.1, second.2.2) := by
  induction p generalizing s with
  | done a => simp [run]
  | log level text p ih => simp [run, ih]
  | ask r next ih => simp [run, ih]

end Plan

end BuildScript
