import Mathlib.Data.List.Forall2
import Mathlib.Tactic

/-!
# Runs of a machine whose steps may fail

A machine is a function `step : σ → ι → Except ε (σ × List ω)`: from a state and an input, either
a fault, after which there is no state, or a next state and the outputs of the step.

* `Run step s₀ tr s` — the inputs and outputs `tr` lead from `s₀` to `s`, no step faulting;
  `exec` computes it, and `exists_run` turns a computed run into a `Run`.
* `Path R s out s'` — the same without inputs, for a relation `R` that says what one *atomic
  action* can do. A step of the machine is usually a sequence of actions, and an invariant is
  proved of the actions.
* `Inductive.run` — the invariant rule: if every step is a path of actions (`Refines`), a
  predicate on trace and state that holds initially, survives the arrival of an input, and is
  kept by every action (`Inductive`), holds along every run. The trace is the one of the run so
  far, the current step's outputs included as far as they are made.
* `Inductive.outputs` — what each action's outputs satisfy, every output of every run satisfies,
  with the trace up to its step at hand.
* `ok_bind_iff`, `mapM_ok_iff` — the inversions of a fallible sequence and of a fallible loop;
  `error_bind_iff` and `exists_of_mapM_error` are those of failures.
-/

namespace Machine

variable {σ ι ω ε α β γ : Type}

/-! ### Fallible computations -/

/-- A sequence succeeds iff its parts do. -/
theorem ok_bind_iff {x : Except ε α} {f : α → Except ε β} {b : β} :
    (x >>= f) = .ok b ↔ ∃ a, x = .ok a ∧ f a = .ok b := by
  cases x with
  | error e => simp [bind, Except.bind]
  | ok a => simp [bind, Except.bind]

/-- A sequence fails with what its first part fails with, or its second. -/
theorem error_bind_iff {x : Except ε α} {f : α → Except ε β} {e : ε} :
    (x >>= f) = .error e ↔ x = .error e ∨ ∃ a, x = .ok a ∧ f a = .error e := by
  cases x with
  | error e => simp [bind, Except.bind]
  | ok a => simp [bind, Except.bind]

/-- Another name for the failures does not change a success. -/
theorem mapError_ok_iff {ε' : Type} {x : Except ε α} {f : ε → ε'} {a : α} :
    x.mapError f = .ok a ↔ x = .ok a := by
  cases x <;> simp [Except.mapError]

/-- A loop succeeds iff each round does. -/
theorem mapM_ok_iff {f : α → Except ε β} {l : List α} {out : List β} :
    l.mapM f = .ok out ↔ List.Forall₂ (fun a b => f a = .ok b) l out := by
  induction l generalizing out with
  | nil =>
      rw [List.mapM_nil, List.forall₂_nil_left_iff]
      constructor
      · intro h
        exact (Except.ok.inj h).symm
      · rintro rfl
        rfl
  | cons a l ih =>
      rw [List.mapM_cons, ok_bind_iff, List.forall₂_cons_left_iff]
      constructor
      · rintro ⟨b, hb, h⟩
        obtain ⟨bs, hbs, h'⟩ := ok_bind_iff.mp h
        exact ⟨b, bs, hb, ih.mp hbs, (Except.ok.inj h').symm⟩
      · rintro ⟨b, bs, hb, hbs, rfl⟩
        exact ⟨b, hb, ok_bind_iff.mpr ⟨bs, ih.mpr hbs, rfl⟩⟩

/-- A loop fails with what one of its rounds fails with. -/
theorem exists_of_mapM_error {f : α → Except ε β} {l : List α} {e : ε}
    (h : l.mapM f = .error e) : ∃ a ∈ l, f a = .error e := by
  induction l with
  | nil => cases h
  | cons a l ih =>
      rw [List.mapM_cons] at h
      rcases error_bind_iff.mp h with ha | ⟨b, -, h⟩
      · exact ⟨a, List.mem_cons_self, ha⟩
      · rcases error_bind_iff.mp h with hl | ⟨bs, -, h⟩
        · obtain ⟨a', ha', he⟩ := ih hl
          exact ⟨a', List.mem_cons_of_mem _ ha', he⟩
        · cases h

/-- A computation succeeds with a result that passes a test. -/
def okAnd (x : Except ε α) (test : α → Bool) : Bool :=
  match x with
  | .ok a => test a
  | .error _ => false

/-- What a test on a result says. -/
theorem exists_ok (x : Except ε α) (test : α → Bool) (h : okAnd x test = true) :
    ∃ a, x = .ok a ∧ test a = true := by
  cases x with
  | error e => cases h
  | ok a => exact ⟨a, rfl, h⟩

/-- What a loop puts out, one of its rounds puts out. -/
theorem exists_round {r : α → β → Prop} {l : List α} {out : List β} {b : β}
    (h : List.Forall₂ r l out) (hb : b ∈ out) : ∃ a ∈ l, r a b := by
  induction h with
  | nil => cases hb
  | @cons a c l out hr _ ih =>
      rcases List.mem_cons.mp hb with rfl | hb
      · exact ⟨a, List.mem_cons_self, hr⟩
      · obtain ⟨a', ha', hr'⟩ := ih hb
        exact ⟨a', List.mem_cons_of_mem _ ha', hr'⟩

/-- Every round puts something out. -/
theorem exists_output {r : α → β → Prop} {l : List α} {out : List β} {a : α}
    (h : List.Forall₂ r l out) (ha : a ∈ l) : ∃ b ∈ out, r a b := by
  obtain ⟨b, hb, hr⟩ := exists_round h.flip ha
  exact ⟨b, hb, hr⟩

/-- A loop whose rounds each put out their own item puts out all of them, in order. -/
theorem filterMap_rounds {r : α → β → Prop} {l : List α} {out : List β} {f : α → γ}
    {g : β → Option γ} (h : List.Forall₂ r l out) (hg : ∀ a b, r a b → g b = some (f a)) :
    out.filterMap g = l.map f := by
  induction h with
  | nil => rfl
  | cons hr _ ih => rw [List.filterMap_cons_some (hg _ _ hr), ih, List.map_cons]

/-- A loop whose rounds put out nothing of a kind. -/
theorem filterMap_rounds_none {r : α → β → Prop} {l : List α} {out : List β} {g : β → Option γ}
    (h : List.Forall₂ r l out) (hg : ∀ a b, r a b → g b = none) : out.filterMap g = [] := by
  rw [List.filterMap_eq_nil_iff]
  intro b hb
  obtain ⟨a, -, hr⟩ := exists_round h hb
  exact hg a b hr

/-! ### Runs -/

/-- The trace `tr` of inputs and outputs leads from `s₀` to a state. -/
inductive Run (step : σ → ι → Except ε (σ × List ω)) (s₀ : σ) : List (ι × List ω) → σ → Prop
  | nil : Run step s₀ [] s₀
  | snoc {tr : List (ι × List ω)} {s s' : σ} {i : ι} {out : List ω} :
      Run step s₀ tr s → step s i = .ok (s', out) → Run step s₀ (tr ++ [(i, out)]) s'

/-- The outputs of a trace, in order. -/
def outputs (tr : List (ι × List ω)) : List ω := tr.flatMap Prod.snd

/-- An empty run has no outputs. -/
@[simp] theorem outputs_nil : outputs ([] : List (ι × List ω)) = [] := rfl

/-- The outputs of one more step. -/
@[simp] theorem outputs_snoc (tr : List (ι × List ω)) (i : ι) (out : List ω) :
    outputs (tr ++ [(i, out)]) = outputs tr ++ out := by
  simp [outputs]

variable {step : σ → ι → Except ε (σ × List ω)} {s₀ s s' : σ} {tr tr' : List (ι × List ω)}

/-- The empty trace goes nowhere. -/
theorem Run.eq_of_nil (h : Run step s₀ [] s) : s = s₀ := by
  generalize htr : ([] : List (ι × List ω)) = t at h
  cases h with
  | nil => rfl
  | snoc _ _ => simp at htr

/-- One step. -/
theorem Run.single {i : ι} {out : List ω} (h : step s i = .ok (s', out)) :
    Run step s [(i, out)] s' := by
  have hnil : Run step s [] s := .nil
  exact hnil.snoc h

/-- Runs compose. -/
theorem Run.append (h : Run step s₀ tr s) (h' : Run step s tr' s') :
    Run step s₀ (tr ++ tr') s' := by
  induction h' with
  | nil => simpa using h
  | snoc _ hs ih =>
      rw [← List.append_assoc]
      exact ih.snoc hs

/-- A run of a trace passes through every prefix of it. -/
theorem Run.split (h : Run step s₀ (tr ++ tr') s) :
    ∃ s₁, Run step s₀ tr s₁ ∧ Run step s₁ tr' s := by
  induction tr' using List.reverseRecOn generalizing s with
  | nil => exact ⟨s, by simpa using h, .nil⟩
  | append_singleton l x ih =>
      generalize htr : tr ++ (l ++ [x]) = t at h
      cases h with
      | nil => simp at htr
      | snoc h₀ hs =>
          rw [← List.append_assoc] at htr
          obtain ⟨rfl, hx⟩ := List.append_inj' htr rfl
          obtain ⟨s₁, h₁, h₂⟩ := ih h₀
          obtain rfl := List.singleton_inj.mp hx
          exact ⟨s₁, h₁, h₂.snoc hs⟩

/-- The step a run takes at an entry of its trace. -/
theorem Run.split_step {pre post : List (ι × List ω)} {i : ι} {out : List ω}
    (h : Run step s₀ (pre ++ (i, out) :: post) s) :
    ∃ s₁ s₂, Run step s₀ pre s₁ ∧ step s₁ i = .ok (s₂, out) ∧ Run step s₂ post s := by
  rw [List.append_cons] at h
  obtain ⟨s₂, h₁, h₂⟩ := h.split
  obtain ⟨s₁, h₀, hs⟩ := h₁.split
  generalize htr : [(i, out)] = t at hs
  cases hs with
  | nil => simp at htr
  | snoc hn hs =>
      rw [← List.nil_append [(i, out)]] at htr
      obtain ⟨rfl, hx⟩ := List.append_inj' htr rfl
      obtain ⟨rfl, rfl⟩ := Prod.mk.inj (List.singleton_inj.mp hx)
      obtain rfl := hn.eq_of_nil
      exact ⟨_, s₂, h₀, hs, h₂⟩

/-- Run the machine on a list of inputs, keeping the outputs of every step. -/
def exec (step : σ → ι → Except ε (σ × List ω)) (s : σ) :
    List ι → Except ε (σ × List (ι × List ω))
  | [] => .ok (s, [])
  | i :: is => do
      let (s', out) ← step s i
      let (s'', tr) ← exec step s' is
      .ok (s'', (i, out) :: tr)

/-- Some inputs, and then others. -/
theorem exec_append_ok_iff {is js : List ι} {s'' : σ} :
    exec step s (is ++ js) = .ok (s'', tr) ↔ ∃ s' tr₁ tr₂, exec step s is = .ok (s', tr₁) ∧
      exec step s' js = .ok (s'', tr₂) ∧ tr = tr₁ ++ tr₂ := by
  induction is generalizing s tr with
  | nil =>
      constructor
      · exact fun h => ⟨s, [], tr, rfl, h, rfl⟩
      · rintro ⟨s', tr₁, tr₂, h₁, h₂, rfl⟩
        obtain ⟨rfl, rfl⟩ := Prod.mk.inj (Except.ok.inj h₁)
        exact h₂
  | cons i is ih =>
      constructor
      · intro h
        obtain ⟨⟨s₁, out⟩, hstep, h⟩ := ok_bind_iff.mp h
        obtain ⟨⟨s₂, tr'⟩, h', h⟩ := ok_bind_iff.mp h
        obtain ⟨rfl, rfl⟩ := Prod.mk.inj (Except.ok.inj h)
        obtain ⟨s', tr₁, tr₂, h₁, h₂, rfl⟩ := ih.mp h'
        exact ⟨s', (i, out) :: tr₁, tr₂,
          ok_bind_iff.mpr ⟨_, hstep, ok_bind_iff.mpr ⟨_, h₁, rfl⟩⟩, h₂, rfl⟩
      · rintro ⟨s', tr₁, tr₂, h₁, h₂, rfl⟩
        obtain ⟨⟨s₁, out⟩, hstep, h₁⟩ := ok_bind_iff.mp h₁
        obtain ⟨⟨s₂, tr'⟩, h', h₁⟩ := ok_bind_iff.mp h₁
        obtain ⟨rfl, rfl⟩ := Prod.mk.inj (Except.ok.inj h₁)
        exact ok_bind_iff.mpr ⟨_, hstep,
          ok_bind_iff.mpr ⟨_, ih.mpr ⟨_, _, _, h', h₂, rfl⟩, rfl⟩⟩

/-- One input. -/
theorem exec_singleton_ok_iff {i : ι} :
    exec step s [i] = .ok (s', tr) ↔ ∃ out, step s i = .ok (s', out) ∧ tr = [(i, out)] := by
  constructor
  · intro h
    obtain ⟨⟨s₁, out⟩, hstep, h⟩ := ok_bind_iff.mp h
    obtain ⟨rfl, rfl⟩ := Prod.mk.inj (Except.ok.inj h)
    exact ⟨out, hstep, rfl⟩
  · rintro ⟨out, hstep, rfl⟩
    exact ok_bind_iff.mpr ⟨_, hstep, rfl⟩

/-- A computed run is a run on the inputs given. -/
theorem run_of_exec {is : List ι} (h : exec step s is = .ok (s', tr)) :
    Run step s tr s' ∧ tr.map Prod.fst = is := by
  induction is generalizing s tr with
  | nil =>
      obtain ⟨rfl, rfl⟩ := Prod.mk.inj (Except.ok.inj h)
      exact ⟨.nil, rfl⟩
  | cons i is ih =>
      obtain ⟨⟨s₁, out⟩, hs, h⟩ := ok_bind_iff.mp h
      obtain ⟨⟨s₂, tr₁⟩, he, h⟩ := ok_bind_iff.mp h
      obtain ⟨rfl, rfl⟩ := Prod.mk.inj (Except.ok.inj h)
      obtain ⟨hrun, hinputs⟩ := ih he
      exact ⟨(Run.snoc .nil hs).append hrun, by rw [List.map_cons, hinputs]⟩

/-- A test of state and trace passed by computation is passed by a run. -/
theorem exists_run (step : σ → ι → Except ε (σ × List ω)) (s : σ) (inputs : List ι)
    (test : σ → List (ι × List ω) → Bool)
    (h : okAnd (exec step s inputs) (fun r => test r.1 r.2) = true) :
    ∃ tr s', Run step s tr s' ∧ tr.map Prod.fst = inputs ∧ test s' tr = true := by
  obtain ⟨⟨s', tr⟩, he, htest⟩ := exists_ok _ _ h
  obtain ⟨hrun, hinputs⟩ := run_of_exec he
  exact ⟨tr, s', hrun, hinputs, htest⟩

/-! ### Steps as paths of atomic actions -/

/-- A sequence of actions, with the outputs made on the way. -/
inductive Path (R : σ → List ω → σ → Prop) (s : σ) : List ω → σ → Prop
  | refl : Path R s [] s
  | tail {out o : List ω} {s₁ s₂ : σ} : Path R s out s₁ → R s₁ o s₂ → Path R s (out ++ o) s₂

variable {R : ι → σ → List ω → σ → Prop}

/-- A path of one step. -/
theorem Path.single {R : σ → List ω → σ → Prop} {o : List ω} (h : R s o s') : Path R s o s' := by
  simpa using Path.refl.tail h

/-- Two paths, one after the other. -/
theorem Path.append {R : σ → List ω → σ → Prop} {s₁ : σ} {out out' : List ω}
    (h : Path R s out s₁) (h' : Path R s₁ out' s') : Path R s (out ++ out') s' := by
  induction h' with
  | refl => simpa using h
  | tail _ hr ih =>
      rw [← List.append_assoc]
      exact ih.tail hr

/-- A predicate kept by every action is kept by a path. -/
theorem Path.preserves {R : σ → List ω → σ → Prop} {P : List ω → σ → Prop} {out : List ω}
    (hP : ∀ out s o s', P out s → R s o s' → P (out ++ o) s') (h₀ : P [] s)
    (h : Path R s out s') : P out s' := by
  induction h with
  | refl => exact h₀
  | tail _ hr ih => exact hP _ _ _ _ ih hr

/-- What a path puts out, one of its actions puts out. -/
theorem Path.exists_action {R : σ → List ω → σ → Prop} {out : List ω} {x : ω}
    (h : Path R s out s') (hx : x ∈ out) : ∃ s₁ o s₂, R s₁ o s₂ ∧ x ∈ o := by
  induction h with
  | refl => cases hx
  | tail _ hr ih =>
      rcases List.mem_append.mp hx with hx | hx
      · exact ih hx
      · exact ⟨_, _, _, hr, hx⟩

/-- Every step of the machine is a path of actions of its input. -/
def Refines (step : σ → ι → Except ε (σ × List ω)) (R : ι → σ → List ω → σ → Prop) : Prop :=
  ∀ s i s' out, step s i = .ok (s', out) → Path (R i) s out s'

/-- A predicate on trace and state that the actions `R` keep. -/
structure Inductive (R : ι → σ → List ω → σ → Prop) (s₀ : σ)
    (P : List (ι × List ω) → σ → Prop) : Prop where
  /-- It holds before the first step. -/
  init : P [] s₀
  /-- It survives the arrival of an input. -/
  input : ∀ tr s i, P tr s → P (tr ++ [(i, [])]) s
  /-- Every action keeps it, `out` being what the step has put out so far. -/
  action : ∀ tr i out s o s', P (tr ++ [(i, out)]) s → R i s o s' → P (tr ++ [(i, out ++ o)]) s'

variable {P : List (ι × List ω) → σ → Prop}

/-- **The invariant rule.** An inductive predicate holds of every run. -/
theorem Inductive.run (hP : Inductive R s₀ P) (hR : Refines step R) (h : Run step s₀ tr s) :
    P tr s := by
  induction h with
  | nil => exact hP.init
  | @snoc tr s s' i out _ hs ih =>
      exact Path.preserves (P := fun out s => P (tr ++ [(i, out)]) s)
        (fun out s o s' => hP.action tr i out s o s') (hP.input _ _ i ih) (hR _ _ _ _ hs)

/-- **The output rule.** Under an inductive predicate, what the outputs of each action satisfy is
satisfied by every output of every run; `Q` may look at the trace up to and including the step. -/
theorem Inductive.outputs {Q : List (ι × List ω) → ι → ω → Prop} (hP : Inductive R s₀ P)
    (hR : Refines step R)
    (hout : ∀ tr i out s o s', P (tr ++ [(i, out)]) s → R i s o s' →
      ∀ x ∈ o, Q (tr ++ [(i, out)]) i x)
    (hmono : ∀ tr i out out' x, Q (tr ++ [(i, out)]) i x → Q (tr ++ [(i, out ++ out')]) i x)
    {pre post : List (ι × List ω)} {i : ι} {out : List ω}
    (h : Run step s₀ (pre ++ (i, out) :: post) s) :
    ∀ x ∈ out, Q (pre ++ [(i, out)]) i x := by
  obtain ⟨s₁, s₂, hpre, hs, -⟩ := h.split_step
  have hP₁ : P (pre ++ [(i, [])]) s₁ := hP.input _ _ i (hP.run hR hpre)
  refine (Path.preserves (P := fun out s =>
    P (pre ++ [(i, out)]) s ∧ ∀ x ∈ out, Q (pre ++ [(i, out)]) i x) ?_ ⟨hP₁, by simp⟩
    (hR _ _ _ _ hs)).2
  rintro out s o s' ⟨hP', hQ⟩ hr
  refine ⟨hP.action _ _ _ _ _ _ hP' hr, fun x hx => ?_⟩
  rcases List.mem_append.mp hx with hx | hx
  · exact hmono _ _ _ _ _ (hQ x hx)
  · exact hmono _ _ _ _ _ (hout _ _ _ _ _ _ hP' hr x hx)

/-- The output rule for a property of input and output alone. -/
theorem Inductive.output {Q : ι → ω → Prop} (hP : Inductive R s₀ P) (hR : Refines step R)
    (hout : ∀ tr i out s o s', P (tr ++ [(i, out)]) s → R i s o s' → ∀ x ∈ o, Q i x)
    (h : Run step s₀ tr s) {i : ι} {out : List ω} {x : ω} (hi : (i, out) ∈ tr) (hx : x ∈ out) :
    Q i x := by
  obtain ⟨pre, post, rfl⟩ := List.append_of_mem hi
  exact hP.outputs (Q := fun _ => Q) hR hout (fun _ _ _ _ _ h => h) h x hx

/-- An output of a trace is one of a step of it. -/
theorem mem_outputs {x : ω} : x ∈ outputs tr ↔ ∃ i out, (i, out) ∈ tr ∧ x ∈ out := by
  rw [outputs, List.mem_flatMap]
  constructor
  · rintro ⟨⟨i, out⟩, hi, hx⟩
    exact ⟨i, out, hi, hx⟩
  · rintro ⟨i, out, hi, hx⟩
    exact ⟨(i, out), hi, hx⟩

end Machine
