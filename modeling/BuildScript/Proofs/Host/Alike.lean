import BuildScript.Host.Plan

/-!
# States that a host cannot tell apart

Two runs on one host can be compared when their states differ only in what the host never uses.
`host.Respects alike` says that `alike` relates such states: from states that are alike, every
request gets the same reply and leaves states that are alike again. Then every plan runs the same
way from both (`Respects.run`): same result, same trace.

A host ignores the console if what it was asked to show makes no difference of this kind
(`Host.IgnoresConsole`).
-/

namespace BuildScript

variable {α σ : Type}

/-- The host treats states that are alike in the same way. -/
structure Host.Respects (host : Host σ) (alike : σ → σ → Prop) : Prop where
  refl : ∀ w, alike w w
  reply : ∀ {w w'}, alike w w' → ∀ r, (host.answer r w).1 = (host.answer r w').1
  next : ∀ {w w'}, alike w w' → ∀ r, alike (host.answer r w).2 (host.answer r w').2

theorem Host.respects_eq (host : Host σ) : host.Respects Eq where
  refl _ := rfl
  reply same r := by rw [same]
  next same r := by rw [same]

/-- What the host answers does not depend on what it was asked to show: a state is alike to what
showing a line leaves of it. -/
structure Host.IgnoresConsole (host : Host σ) (alike : σ → σ → Prop) : Prop
    extends host.Respects alike where
  symm : ∀ {w w'}, alike w w' → alike w' w
  trans : ∀ {w w' w''}, alike w w' → alike w' w'' → alike w w''
  shown : ∀ r w, r.isConsole = true → alike (host.answer r w).2 w

/-- What two runs of a plan from alike states have in common: all but the states themselves. -/
theorem Host.Respects.run {host : Host σ} {alike : σ → σ → Prop} (respects : host.Respects alike)
    (p : Plan α) {w w' : σ} (same : alike w w') :
    (p.run host w).1 = (p.run host w').1 ∧ (p.run host w).2.1 = (p.run host w').2.1 ∧
      alike (p.run host w).2.2 (p.run host w').2.2 := by
  induction p generalizing w w' with
  | done a => exact ⟨rfl, rfl, same⟩
  | log level text rest ih =>
      obtain ⟨result, trace, state⟩ := ih same
      exact ⟨result, congrArg (Event.log level text :: ·) trace, state⟩
  | ask r next ih =>
      have reply := respects.reply same r
      obtain ⟨result, trace, state⟩ := ih (host.answer r w).1 (respects.next same r)
      simp only [Plan.run]
      rw [← reply]
      exact ⟨result, congrArg (Event.call r (host.answer r w).1 :: ·) trace, state⟩

end BuildScript
