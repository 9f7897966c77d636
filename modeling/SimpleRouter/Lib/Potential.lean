import SimpleRouter.Lib.Run

/-!
# Amortised bounds

Outputs of a machine cost something, inputs bring something, and the state holds a reserve.

* `Tariff` — the three prices; `Tariff.Pays` — every step pays for its outputs, and for what it
  adds to the reserve, with what its input brings and what it takes from the reserve.
* `Tariff.total_eq_countP`, `Tariff.income_eq_countP` — prices that count.
* `Tariff.run` — **along a run the outputs cost no more than the inputs have brought.**
* `Tariff.path` — a step that is a path of actions brings nothing if they take what they cost from
  the reserve.
-/

namespace Machine

variable {σ ι ω ε : Type}

/-- Prices. -/
structure Tariff (σ ι ω : Type) where
  /-- What an output costs. -/
  cost : ω → ℕ
  /-- What a state holds. -/
  reserve : σ → ℕ
  /-- What an input brings. -/
  credit : ι → ℕ

namespace Tariff

variable (T : Tariff σ ι ω)

/-- What outputs cost. -/
def total (out : List ω) : ℕ := (out.map T.cost).sum

/-- What the inputs of a trace bring. -/
def income (tr : List (ι × List ω)) : ℕ := (tr.map fun x => T.credit x.1).sum

/-- Nothing costs nothing. -/
@[simp] theorem total_nil : T.total [] = 0 := rfl

/-- Costs add up. -/
@[simp] theorem total_append (out out' : List ω) :
    T.total (out ++ out') = T.total out + T.total out' := by
  simp [total]

/-- The cost of the first, and of the rest. -/
@[simp] theorem total_cons (e : ω) (out : List ω) :
    T.total (e :: out) = T.cost e + T.total out := by
  simp [total]

/-- Each input adds its credit. -/
@[simp] theorem income_snoc (tr : List (ι × List ω)) (i : ι) (out : List ω) :
    T.income (tr ++ [(i, out)]) = T.income tr + T.credit i := by
  simp [income]

/-- What a loop puts out costs what its rounds do. -/
theorem total_rounds {α : Type} {r : α → ω → Prop} {l : List α} {out : List ω} {f : α → ℕ}
    (h : List.Forall₂ r l out) (hf : ∀ a e, r a e → T.cost e = f a) :
    T.total out = (l.map f).sum := by
  induction h with
  | nil => rfl
  | cons hr _ ih => rw [total_cons, ih, hf _ _ hr, List.map_cons, List.sum_cons]

/-- Where one kind of output costs one, and the others nothing, outputs are counted. -/
theorem total_eq_countP {p : ω → Bool} (h : ∀ e, T.cost e = if p e then 1 else 0)
    (out : List ω) : T.total out = out.countP p := by
  induction out with
  | nil => rfl
  | cons e out ih => rw [total_cons, ih, h, List.countP_cons, Nat.add_comm]

/-- Where one kind of input brings `c`, and the others nothing. -/
theorem income_eq_countP {q : ι → Bool} {c : ℕ} (h : ∀ i, T.credit i = if q i then c else 0)
    (tr : List (ι × List ω)) : T.income tr = c * tr.countP fun x => q x.1 := by
  induction tr with
  | nil => rfl
  | cons x tr ih =>
      rw [show T.income (x :: tr) = T.credit x.1 + T.income tr by simp [income], ih, h,
        List.countP_cons]
      by_cases hq : q x.1
      · rw [if_pos hq, if_pos hq, Nat.mul_succ, Nat.add_comm]
      · rw [if_neg hq, if_neg hq, Nat.zero_add, Nat.add_zero]

/-- Every step from a state with the property pays. -/
def Pays (step : σ → ι → Except ε (σ × List ω)) (P : σ → Prop) : Prop :=
  ∀ s i s' out, P s → step s i = .ok (s', out) →
    T.total out + T.reserve s' ≤ T.reserve s + T.credit i

variable {T} {step : σ → ι → Except ε (σ × List ω)} {P : σ → Prop} {s₀ s s' : σ}
  {tr : List (ι × List ω)}

/-- **Outputs cost no more than the inputs have brought.** -/
theorem run (hpays : T.Pays step P) (hP : ∀ tr s, Run step s₀ tr s → P s)
    (h : Run step s₀ tr s) :
    T.total (outputs tr) + T.reserve s ≤ T.reserve s₀ + T.income tr := by
  induction h with
  | nil => simp [income]
  | snoc hrun hs ih =>
      have hstep := hpays _ _ _ _ (hP _ _ hrun) hs
      rw [outputs_snoc, total_append, income_snoc]
      omega

/-- Actions that take what they cost from the reserve. -/
theorem path {R : σ → List ω → σ → Prop} {out : List ω}
    (hR : ∀ s o s', P s → R s o s' → T.total o + T.reserve s' ≤ T.reserve s ∧ P s') (hP : P s)
    (h : Path R s out s') : T.total out + T.reserve s' ≤ T.reserve s ∧ P s' := by
  refine Path.preserves (P := fun out s' => T.total out + T.reserve s' ≤ T.reserve s ∧ P s')
    ?_ ⟨by simp, hP⟩ h
  rintro out s₁ o s₂ ⟨hle, hP₁⟩ hr
  obtain ⟨hle', hP₂⟩ := hR _ _ _ hP₁ hr
  refine ⟨?_, hP₂⟩
  rw [total_append]
  omega

end Tariff

end Machine
