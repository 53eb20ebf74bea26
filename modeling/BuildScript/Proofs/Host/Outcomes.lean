import BuildScript.Host.Plan

/-!
# Outcomes of plans

`p.Ensures Q` says that whatever the host answers, the plan `p` ends with a trace and a result that
`Q` allows. It follows the plan's own shape, so it is proved request by request, and it speaks of
every host at once (`Ensures.run`).

* **composition**: what two plans in a row ensure follows from what each ensures (`Ensures.bind`);
* **weakening**: a plan ensures whatever follows from what it ensures (`Ensures.mono`).

`calls` are the requests of a trace, without the log records between them. Other parts of a trace
are what is left of it without the console, or without standard output, and what was shown on
standard error.
-/

namespace BuildScript

/-- Whether an event is a request with its reply. -/
def Event.isCall : Event → Bool
  | .call _ _ => true
  | .log _ _ => false

/-- The requests of a trace with their replies. -/
def calls (trace : List Event) : List Event := trace.filter Event.isCall

@[simp] theorem calls_nil : calls [] = [] := rfl

@[simp] theorem calls_log (level : Level) (text : String) (trace : List Event) :
    calls (.log level text :: trace) = calls trace := rfl

@[simp] theorem calls_call (r : Request) (reply : r.Reply) (trace : List Event) :
    calls (.call r reply :: trace) = .call r reply :: calls trace := rfl

@[simp] theorem calls_append (first second : List Event) :
    calls (first ++ second) = calls first ++ calls second :=
  List.filter_append first second

/-- Whether an event shows a line on the console. -/
def Event.isConsole : Event → Bool
  | .call request _ => request.isConsole
  | .log _ _ => false

/-- Whether an event shows a line on standard output. -/
def Event.isPrint : Event → Bool
  | .call (.print _) _ => true
  | _ => false

/-- Whether an event shows a line on standard error. -/
def Event.isComplaint : Event → Bool
  | .call (.complain _) _ => true
  | _ => false

/-- A trace without what was shown on the console. -/
def unshown (trace : List Event) : List Event := trace.filter fun event => !event.isConsole

/-- A trace without what was shown on standard output. -/
def unprinted (trace : List Event) : List Event := trace.filter fun event => !event.isPrint

/-- What was shown on standard error. -/
def shownErrors (trace : List Event) : List Event := trace.filter Event.isComplaint

/-- The kinds of the requests of a trace, and what each is about. -/
def outline (trace : List Event) : List (Service × String) :=
  trace.filterMap fun
    | .call request _ => some (request.service, request.subject)
    | .log _ _ => none

@[simp] theorem unshown_append (first second : List Event) :
    unshown (first ++ second) = unshown first ++ unshown second :=
  List.filter_append first second

@[simp] theorem unprinted_append (first second : List Event) :
    unprinted (first ++ second) = unprinted first ++ unprinted second :=
  List.filter_append first second

@[simp] theorem shownErrors_append (first second : List Event) :
    shownErrors (first ++ second) = shownErrors first ++ shownErrors second :=
  List.filter_append first second

namespace Plan

variable {α β σ : Type}

/-- Every way in which the plan can end has a trace and a result in `Q`. -/
def Ensures : Plan α → (List Event → α → Prop) → Prop
  | .done a, Q => Q [] a
  | .log level text rest, Q => rest.Ensures fun trace a => Q (.log level text :: trace) a
  | .ask r next, Q => ∀ reply, (next reply).Ensures fun trace a => Q (.call r reply :: trace) a

/-- What a plan ensures holds of its run on every host. -/
theorem Ensures.run {p : Plan α} {Q : List Event → α → Prop} (ensured : p.Ensures Q)
    (host : Host σ) (w : σ) : Q (p.run host w).2.1 (p.run host w).1 := by
  induction p generalizing Q w with
  | done a => exact ensured
  | log level text rest ih => exact ih ensured w
  | ask r next ih => exact ih (host.answer r w).1 (ensured _) (host.answer r w).2

/-- A plan ensures what holds of every trace and result. -/
theorem Ensures.of_forall {p : Plan α} {Q : List Event → α → Prop}
    (always : ∀ trace a, Q trace a) : p.Ensures Q := by
  induction p generalizing Q with
  | done a => exact always [] a
  | log level text rest ih => exact ih fun _ _ => always _ _
  | ask r next ih => exact fun reply => ih reply fun _ _ => always _ _

theorem Ensures.mono {p : Plan α} {Q R : List Event → α → Prop} (ensured : p.Ensures Q)
    (weaker : ∀ trace a, Q trace a → R trace a) : p.Ensures R := by
  induction p generalizing Q R with
  | done a => exact weaker [] a ensured
  | log level text rest ih => exact ih ensured fun _ _ => weaker _ _
  | ask r next ih => exact fun reply => ih reply (ensured reply) fun _ _ => weaker _ _

/-- The trace of two plans in a row is the trace of the first and then that of the second. -/
theorem Ensures.bind {p : Plan α} {f : α → Plan β} {Q : List Event → α → Prop}
    {R : List Event → β → Prop} (first : p.Ensures Q)
    (second : ∀ trace a, Q trace a → (f a).Ensures fun rest b => R (trace ++ rest) b) :
    (p.bind f).Ensures R := by
  induction p generalizing Q R with
  | done a => exact second [] a first
  | log level text rest ih => exact ih first fun _ _ => second _ _
  | ask r next ih => exact fun reply => ih reply (first reply) fun _ _ => second _ _

end Plan

end BuildScript
