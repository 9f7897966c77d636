import SimpleRouter.Lib.Run

/-!
# Simulations between machines

Two machines with the same inputs and outputs, and a relation `R` between their states.

* `Simulates step step' R` — whatever the first does from a state, the second does from any related
  one, with the same outputs, and the states after are related again.
* `Simulates.run`, `Simulates.exec` — **so it is for whole runs**.
-/

namespace Machine

variable {σ τ ι ω ε ε' : Type}

/-- The second machine does what the first does. -/
def Simulates (step : σ → ι → Except ε (σ × List ω)) (step' : τ → ι → Except ε' (τ × List ω))
    (R : σ → τ → Prop) : Prop :=
  ∀ s t i s' out, R s t → step s i = .ok (s', out) → ∃ t', step' t i = .ok (t', out) ∧ R s' t'

variable {step : σ → ι → Except ε (σ × List ω)} {step' : τ → ι → Except ε' (τ × List ω)}
  {R : σ → τ → Prop} {s s' : σ} {t : τ} {tr : List (ι × List ω)} {is : List ι}

/-- **A run of the first machine is one of the second.** -/
theorem Simulates.run (hS : Simulates step step' R) (hR : R s t) (h : Run step s tr s') :
    ∃ t', Run step' t tr t' ∧ R s' t' := by
  induction h with
  | nil => exact ⟨t, .nil, hR⟩
  | snoc _ hs ih =>
      obtain ⟨t₁, hrun, hR₁⟩ := ih
      obtain ⟨t₂, ht, hR₂⟩ := hS _ _ _ _ _ hR₁ hs
      exact ⟨t₂, hrun.snoc ht, hR₂⟩

/-- **What the first machine computes, the second computes.** -/
theorem Simulates.exec (hS : Simulates step step' R) (hR : R s t)
    (h : exec step s is = .ok (s', tr)) : ∃ t', exec step' t is = .ok (t', tr) ∧ R s' t' := by
  induction is generalizing s t tr with
  | nil =>
      obtain ⟨rfl, rfl⟩ := Prod.mk.inj (Except.ok.inj h)
      exact ⟨t, rfl, hR⟩
  | cons i is ih =>
      obtain ⟨⟨s₁, out⟩, hs, h⟩ := ok_bind_iff.mp h
      obtain ⟨⟨s₂, tr₁⟩, he, h⟩ := ok_bind_iff.mp h
      obtain ⟨rfl, rfl⟩ := Prod.mk.inj (Except.ok.inj h)
      obtain ⟨t₁, ht, hR₁⟩ := hS _ _ _ _ _ hR hs
      obtain ⟨t₂, he', hR₂⟩ := ih hR₁ he
      refine ⟨t₂, ?_, hR₂⟩
      exact ok_bind_iff.mpr ⟨_, ht, ok_bind_iff.mpr ⟨_, he', rfl⟩⟩

end Machine
