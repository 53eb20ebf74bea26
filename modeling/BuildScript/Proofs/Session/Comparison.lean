import BuildScript.Proofs.Host.Tandem
import BuildScript.Proofs.Session.Composition

/-!
# Runs side by side

Two runs are compared line by line, when each line of the one script has its counterpart in the
other. A `Comparison` says which sessions and which calls may stand at the same place of the two
runs, and what the requests of such calls have in common. What has to be known for it is only what a
pair of calls comes to (`Comparison.dispatched`); on a host that ignores the console the rest of the
runs follows.

* `Comparison.takeLine_tandem`, `Comparison.deed_beside`: a pair of lines comes to the same verdict,
  and leaves sessions and states that may stand at the same place again;
* `Comparison.takeLines_beside`: the runs have the same summary, and ledgers that agree entry by
  entry;
* `Comparison.runSource_beside`: the same for whole scripts.
-/

namespace BuildScript.Session

open Script

variable {σ : Type}

/-- The lines say the same, or they are calls that are related. -/
inductive LineBeside (related : Call → Call → Prop) : Line → Line → Prop where
  | call {call call' : Call} (calls : related call call') :
      LineBeside related (.call call) (.call call')
  | other {line : Line} (other : line.isCall = false) : LineBeside related line line

/-- The deeds have the same verdict and the same message, and requests that are related. -/
structure DeedBeside (related : Verdict → List Event → List Event → Prop) (deed deed' : Deed) :
    Prop where
  verdict : deed'.verdict = deed.verdict
  message : deed'.message? = deed.message?
  requests : related deed.verdict deed.requests deed'.requests

/-- The entries are for lines of the same number, and their deeds are beside each other. -/
structure EntryBeside (related : Verdict → List Event → List Event → Prop)
    (entry entry' : Entry) : Prop where
  number : entry'.number = entry.number
  deed : DeedBeside related entry.deed entry'.deed

/-- A way to compare two runs. -/
structure Comparison where
  /-- The sessions that may stand at the same place. -/
  sessions : Session → Session → Prop
  /-- The calls that may stand at the same place. -/
  calls : Call → Call → Prop
  /-- What the requests of two calls have in common, when they come to this verdict. -/
  requests : Verdict → List Event → List Event → Prop
  -- What the sessions and their calls must be like for the runs to stay side by side.
  selection : ∀ {s s'}, sessions s s' → s'.selection = s.selection
  observed : ∀ {s s'}, sessions s s' → ∀ line, sessions (s.observe line) (s'.observe line)
  silent : ∀ verdict, requests verdict [] []
  dispatched : ∀ {s s' call call'}, sessions s s' → calls call call' →
    (s.dispatch call).Tandem (s'.dispatch call') fun t outcome t' outcome' =>
      outcome'.1 = outcome.1 ∧ sessions outcome.2 outcome'.2 ∧
        requests (Deed.dispatched t outcome.1).verdict t t'

/-- Sessions carry out actions in tandem. -/
theorem act_tandem {s s' : Session} {d d' : Directive} {call call' : Call}
    {Q : List Event → Except CallError Flow × Settings → List Event →
      Except CallError Flow × Settings → Prop}
    (actions : ((d.action s.script call).perform s.settings).Tandem
      ((d'.action s'.script call').perform s'.settings) Q)
    {R : List Event → Except CallError Flow × Session → List Event →
      Except CallError Flow × Session → Prop}
    (carried : ∀ t a t' b, Q t a t' b →
      R t (a.1, { s with settings := a.2 }) t' (b.1, { s' with settings := b.2 })) :
    (s.act d call).Tandem (s'.act d' call') R := by
  refine .logLeft _ _ (.logRight _ _ (actions.bind fun t a t' b ended => .done ?_))
  rw [List.append_nil, List.append_nil]
  exact carried t a t' b ended

/-- A result comes to the same verdict in both sessions. -/
theorem settle_tandem (s s' : Session) (number : Nat) (result : Except CallError Flow) :
    (s.settle number result).Tandem (s'.settle number result) fun _ verdict _ verdict' =>
      verdict' = verdict := by
  cases result with
  | error error => exact .logLeft _ _ (.logRight _ _ (.ask fun _ => .done rfl))
  | ok flow =>
      cases flow with
      | proceed => exact .done rfl
      | exit code => exact .logLeft _ _ (.logRight _ _ (.done rfl))

namespace Comparison

variable (c : Comparison) {host : Host σ} {alike : σ → σ → Prop} {w w' : σ} {s s' : Session}

/-! ## One line -/

theorem takeLine_tandem (place : c.sessions s s') {line line' : Line}
    (beside : LineBeside c.calls line line') (number : Nat) :
    (s.takeLine number line).Tandem (s'.takeLine number line') fun _ outcome _ outcome' =>
      outcome'.1 = outcome.1 ∧ c.sessions outcome.2 outcome'.2 := by
  have active : s'.selection.isActive = s.selection.isActive := by rw [c.selection place]
  cases beside with
  | call calls =>
      simp only [Session.takeLine, active]
      split
      · refine (c.dispatched place calls).bind ?_
        rintro t outcome t' outcome' ⟨result, next, -⟩
        rw [result]
        refine (settle_tandem outcome.2 outcome'.2 number outcome.1).bind ?_
        rintro _ verdict _ _ rfl
        exact .done ⟨rfl, next⟩
      · exact .logLeft _ _ (.logRight _ _ (.done ⟨rfl, place⟩))
  | @other line other =>
      cases line with
      | call call => cases other
      | blank => exact .done ⟨rfl, place⟩
      | comment => exact .done ⟨rfl, place⟩
      | label name => exact .logLeft _ _ (.logRight _ _ (.done ⟨rfl, place⟩))
      | malformed error =>
          simp only [Session.takeLine, active]
          split
          · exact .logLeft _ _ (.logRight _ _ (.ask fun _ => .done ⟨rfl, place⟩))
          · exact .done ⟨rfl, place⟩

theorem deed_beside (deaf : host.IgnoresConsole alike) (same : alike w w') (place : c.sessions s s')
    {line line' : Line} (beside : LineBeside c.calls line line') :
    DeedBeside c.requests (s.deed host w line) (s'.deed host w' line') := by
  have active : s'.selection.isActive = s.selection.isActive := by rw [c.selection place]
  cases beside with
  | call calls =>
      simp only [Session.deed, active]
      split
      · obtain ⟨⟨result, -, made⟩, -⟩ := (c.dispatched place calls).run deaf same
        rw [result]
        generalize ((s.dispatch _).run host w).1.1 = result at made
        cases result with
        | error error => exact ⟨rfl, rfl, made⟩
        | ok flow => cases flow <;> exact ⟨rfl, rfl, made⟩
      · exact ⟨rfl, rfl, c.silent _⟩
  | @other line other =>
      cases line with
      | call call => cases other
      | blank => exact ⟨rfl, rfl, c.silent _⟩
      | comment => exact ⟨rfl, rfl, c.silent _⟩
      | label name => exact ⟨rfl, rfl, c.silent _⟩
      | malformed error =>
          simp only [Session.deed, active]
          split
          · exact ⟨rfl, rfl, c.silent _⟩
          · exact ⟨rfl, rfl, c.silent _⟩

/-- Calls leave the selection alone, so sessions see them alike. -/
theorem observe_beside (place : c.sessions s s') {line line' : Line}
    (beside : LineBeside c.calls line line') : c.sessions (s.observe line) (s'.observe line') := by
  cases beside with
  | @call call call' calls => exact c.observed place (.call call)
  | @other line other => exact c.observed place line

/-! ## All lines -/

/-- The runs stay side by side to the end. -/
theorem takeLines_beside (deaf : host.IgnoresConsole alike) {ls ls' : List (Nat × Line)}
    (lines : List.Forall₂ (fun numbered numbered' =>
      numbered'.1 = numbered.1 ∧ LineBeside c.calls numbered.2 numbered'.2) ls ls')
    (place : c.sessions s s') (same : alike w w') (summary : Summary) :
    let one := (s.takeLines summary ls).run host w
    let two := (s'.takeLines summary ls').run host w'
    two.1.1 = one.1.1 ∧ c.sessions one.1.2 two.1.2 ∧ alike one.2.2 two.2.2 ∧
      List.Forall₂ (EntryBeside c.requests) (s.ledger host w ls) (s'.ledger host w' ls') := by
  -- The sessions and the states after every pair of lines may stand at the same place again.
  induction lines generalizing s s' w w' summary with
  | nil => exact ⟨rfl, place, same, .nil⟩
  | @cons numbered numbered' ls ls' head lines ih =>
      obtain ⟨_, line⟩ := numbered
      obtain ⟨number, line'⟩ := numbered'
      obtain ⟨rfl, beside⟩ := head
      have seen := c.observe_beside place beside
      have deeds := c.deed_beside deaf same seen beside
      obtain ⟨⟨verdict, next⟩, states⟩ := (c.takeLine_tandem seen beside number).run deaf same
      rw [takeLines_cons, takeLines_cons, ledger, ledger, Plan.run_bind, Plan.run_bind]
      generalize ((s.observe line).takeLine number line).run host w = one at *
      generalize ((s'.observe line').takeLine number line').run host w' = two at *
      simp only [verdict]
      cases exits : one.1.1.exits with
      | true => exact ⟨rfl, next, states, .cons ⟨rfl, deeds⟩ .nil⟩
      | false =>
          obtain ⟨counted, last, final, entries⟩ := ih next states (summary.count one.1.1)
          exact ⟨counted, last, final, .cons ⟨rfl, deeds⟩ entries⟩

theorem runSource_beside (deaf : host.IgnoresConsole alike) {first second : String}
    (lines : List.Forall₂ (LineBeside c.calls) ((parse first).map Prod.snd)
      ((parse second).map Prod.snd))
    (place : c.sessions s s') (same : alike w w') :
    let one := (s.runSource first).run host w
    let two := (s'.runSource second).run host w'
    two.1.1 = one.1.1 ∧ c.sessions one.1.2 two.1.2 ∧ alike one.2.2 two.2.2 ∧
      List.Forall₂ (EntryBeside c.requests) (s.ledger host w (parse first))
        (s'.ledger host w' (parse second)) := by
  intro one two
  obtain ⟨result, state, -⟩ := runSource_outcome host s w first
  obtain ⟨result', state', -⟩ := runSource_outcome host s' w' second
  simp only [one, two, result, state, result', state']
  exact c.takeLines_beside deaf (numbered_beside lines) place same .empty

end Comparison

section

variable {related : Verdict → List Event → List Event → Prop}

theorem EntryBeside.report {entry entry' : Entry} (beside : EntryBeside related entry entry') :
    entry'.report = entry.report := by
  rw [Entry.report, Entry.report, beside.deed.message, beside.number]

/-- What every pair of entries has in common, the requests of the two runs have in common. -/
theorem EntryBeside.flatMap_events (common : List Event → List Event → Prop)
    (refl : ∀ t, common t t)
    (append : ∀ {t t' u u'}, common t t' → common u u' → common (t ++ u) (t' ++ u'))
    (requests : ∀ {verdict t t'}, related verdict t t' → common t t')
    {entries entries' : List Entry}
    (beside : List.Forall₂ (EntryBeside related) entries entries') :
    common (entries.flatMap Entry.events) (entries'.flatMap Entry.events) := by
  induction beside with
  | nil => exact refl []
  | @cons entry entry' entries entries' first rest ih =>
      rw [List.flatMap_cons, List.flatMap_cons, Entry.events, Entry.events, first.report]
      exact append (append (requests first.deed.requests) (refl _)) ih

end

end BuildScript.Session
