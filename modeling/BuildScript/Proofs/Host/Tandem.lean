import BuildScript.Proofs.Host.Alike
import BuildScript.Proofs.Host.Outcomes

/-!
# Plans in tandem

Two plans can be carried out side by side, although one of them shows lines on the console that the
other does not. `p.Tandem q Q` says that they make all other requests together, whatever the host
answers, and that `Q` allows the requests and the results with which they end.

On a host that ignores the console, plans in tandem come to such ends from states that differ in
nothing but what was shown (`Tandem.run`).

* **composition**: what two pairs of plans in a row come to follows from each pair (`Tandem.bind`);
* **one plan**: a plan is in tandem with itself (`Ensures.tandem`, `Tandem.refl`).
-/

namespace BuildScript

variable {α β γ δ σ : Type}

namespace Plan

/-- The plans make the same requests, except that each may show lines of its own, and every way in
which they can end has requests and results in `Q`. -/
inductive Tandem : Plan α → Plan β → (List Event → α → List Event → β → Prop) → Prop where
  | done {a : α} {b : β} {Q : List Event → α → List Event → β → Prop} (ends : Q [] a [] b) :
      Tandem (.done a) (.done b) Q
  | logLeft {p : Plan α} {q : Plan β} {Q : List Event → α → List Event → β → Prop}
      (level : Level) (text : String) (rest : Tandem p q Q) : Tandem (.log level text p) q Q
  | logRight {p : Plan α} {q : Plan β} {Q : List Event → α → List Event → β → Prop}
      (level : Level) (text : String) (rest : Tandem p q Q) : Tandem p (.log level text q) Q
  | ask {r : Request} {next : r.Reply → Plan α} {next' : r.Reply → Plan β}
      {Q : List Event → α → List Event → β → Prop}
      (rest : ∀ reply, Tandem (next reply) (next' reply) fun t a t' b =>
        Q (.call r reply :: t) a (.call r reply :: t') b) :
      Tandem (.ask r next) (.ask r next') Q
  | showLeft {r : Request} {next : r.Reply → Plan α} {q : Plan β}
      {Q : List Event → α → List Event → β → Prop} (console : r.isConsole = true)
      (rest : ∀ reply, Tandem (next reply) q fun t a t' b => Q (.call r reply :: t) a t' b) :
      Tandem (.ask r next) q Q
  | showRight {r : Request} {p : Plan α} {next' : r.Reply → Plan β}
      {Q : List Event → α → List Event → β → Prop} (console : r.isConsole = true)
      (rest : ∀ reply, Tandem p (next' reply) fun t a t' b => Q t a (.call r reply :: t') b) :
      Tandem p (.ask r next') Q

variable {p : Plan α} {q : Plan β} {Q : List Event → α → List Event → β → Prop}

/-- Plans in tandem end as they should on every host that ignores the console. -/
theorem Tandem.run {host : Host σ} {alike : σ → σ → Prop} (deaf : host.IgnoresConsole alike)
    (tandem : p.Tandem q Q) {w w' : σ} (same : alike w w') :
    Q (calls (p.run host w).2.1) (p.run host w).1 (calls (q.run host w').2.1) (q.run host w').1 ∧
      alike (p.run host w).2.2 (q.run host w').2.2 := by
  induction tandem generalizing w w' with
  | done ends => exact ⟨ends, same⟩
  | logLeft level text rest ih => exact ih same
  | logRight level text rest ih => exact ih same
  | @ask r next next' Q rest ih =>
      have reply := deaf.reply same r
      have ends := ih (host.answer r w).1 (deaf.next same r)
      simp only [Plan.run, calls_call]
      rw [← reply]
      exact ends
  | @showLeft r next q Q console rest ih =>
      exact ih (host.answer r w).1 (deaf.trans (deaf.shown r w console) same)
  | @showRight r p next' Q console rest ih =>
      exact ih (host.answer r w').1 (deaf.trans same (deaf.symm (deaf.shown r w' console)))

theorem Tandem.mono (tandem : p.Tandem q Q) {R : List Event → α → List Event → β → Prop}
    (weaker : ∀ t a t' b, Q t a t' b → R t a t' b) : p.Tandem q R := by
  induction tandem generalizing R with
  | done ends => exact .done (weaker _ _ _ _ ends)
  | logLeft level text rest ih => exact .logLeft level text (ih weaker)
  | logRight level text rest ih => exact .logRight level text (ih weaker)
  | ask rest ih => exact .ask fun reply => ih reply fun _ _ _ _ => weaker _ _ _ _
  | showLeft console rest ih =>
      exact .showLeft console fun reply => ih reply fun _ _ _ _ => weaker _ _ _ _
  | showRight console rest ih =>
      exact .showRight console fun reply => ih reply fun _ _ _ _ => weaker _ _ _ _

/-- The requests of two plans in a row are those of the first and then those of the second. -/
theorem Tandem.bind (first : p.Tandem q Q) {f : α → Plan γ} {g : β → Plan δ}
    {R : List Event → γ → List Event → δ → Prop}
    (second : ∀ t a t' b, Q t a t' b →
      (f a).Tandem (g b) fun u c u' d => R (t ++ u) c (t' ++ u') d) :
    (p.bind f).Tandem (q.bind g) R := by
  induction first generalizing R with
  | done ends => exact second _ _ _ _ ends
  | logLeft level text rest ih => exact .logLeft level text (ih second)
  | logRight level text rest ih => exact .logRight level text (ih second)
  | ask rest ih => exact .ask fun reply => ih reply fun _ _ _ _ => second _ _ _ _
  | showLeft console rest ih =>
      exact .showLeft console fun reply => ih reply fun _ _ _ _ => second _ _ _ _
  | showRight console rest ih =>
      exact .showRight console fun reply => ih reply fun _ _ _ _ => second _ _ _ _

/-- A plan beside itself makes the same requests to the same result. -/
theorem Ensures.tandem {p : Plan α} {P : List Event → α → Prop} (ensured : p.Ensures P)
    {Q : List Event → α → List Event → α → Prop}
    (twice : ∀ t a, P t a → Q (calls t) a (calls t) a) : p.Tandem p Q := by
  induction p generalizing P Q with
  | done a => exact .done (twice [] a ensured)
  | log level text rest ih =>
      exact .logLeft level text (.logRight level text (ih ensured fun t => twice (.log _ _ :: t)))
  | ask r next ih =>
      exact .ask fun reply => ih reply (ensured reply) fun t => twice (.call r reply :: t)

theorem Tandem.refl (p : Plan α) {Q : List Event → α → List Event → α → Prop}
    (always : ∀ t a, Q t a t a) : p.Tandem p Q :=
  have any : p.Ensures fun _ _ => True := .of_forall fun _ _ => trivial
  any.tandem fun t a _ => always (calls t) a

end Plan

end BuildScript
