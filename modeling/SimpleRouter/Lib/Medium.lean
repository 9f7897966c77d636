import SimpleRouter.Lib.Run
import Mathlib.Logic.Function.Basic

/-!
# Machines around a medium

Nodes, each of them the same machine in a state of its own, exchange messages over a medium that
forgets nothing: what has been put on it may be delivered to any node any number of times, at any
time and in any order, or never. Outsiders may put messages on it too.

* `Medium` — the message an input delivers, and the message an output is.
* `Medium.step` — the whole, as a machine.
* `Medium.node_run` — **what a run of the whole is to one node**: a run of its own.
* `Medium.air_subset`, `Medium.mem_air` — the medium keeps what it was given; what a node has put
  out is on it.
* `Medium.good_of_run` — **assume and guarantee**: if outsiders put good messages on the medium
  only, and so does every node as long as it is delivered good ones, then all messages are good.
-/

namespace Machine

variable {ρ σ ι ω μ ε : Type}

/-- How inputs and outputs are messages. -/
structure Medium (ρ ι ω μ : Type) where
  /-- The message an input delivers to a node. -/
  takes : ρ → ι → Option μ
  /-- The message an output of a node puts on the medium. -/
  puts : ρ → ω → Option μ

namespace Medium

/-- The states of the nodes, and every message put on the medium. -/
structure State (ρ σ μ : Type) where
  /-- The nodes. -/
  node : ρ → σ
  /-- The messages, the last in front. -/
  air : List μ

/-- What happens. -/
inductive Event (ρ ι μ : Type) where
  /-- An outsider puts a message on the medium. -/
  | inject (m : μ)
  /-- A node takes a step. -/
  | act (r : ρ) (i : ι)

/-- What has happened, with the outputs of the nodes. -/
abbrev Trace (ρ ι ω μ : Type) := List (Event ρ ι μ × List (ρ × ω))

variable [DecidableEq ρ] [DecidableEq μ] (M : Medium ρ ι ω μ)
  (step : σ → ι → Except ε (σ × List ω))

/-- A node's step, in the whole. -/
def act (s : State ρ σ μ) (r : ρ) (x : σ × List ω) : State ρ σ μ × List (ρ × ω) :=
  (⟨Function.update s.node r x.1, x.2.filterMap (M.puts r) ++ s.air⟩, x.2.map fun e => (r, e))

/-- One step of the whole. A node is delivered what is on the medium only; the failure of the whole
is that of the node, or that there is no such message. -/
def whole (s : State ρ σ μ) : Event ρ ι μ → Except (Option ε) (State ρ σ μ × List (ρ × ω))
  | .inject m => .ok ({ s with air := m :: s.air }, [])
  | .act r i =>
      if ∀ m ∈ M.takes r i, m ∈ s.air then
        ((step (s.node r) i).map (M.act s r)).mapError some
      else .error none

variable {M step} {s₀ s s' : State ρ σ μ} {tr : Trace ρ ι ω μ} {r : ρ} {i : ι}
  {out : List (ρ × ω)}

/-- What a step of a node does. -/
theorem whole_act (h : M.whole step s (.act r i) = .ok (s', out)) :
    (∀ m ∈ M.takes r i, m ∈ s.air) ∧ ∃ σ' o, step (s.node r) i = .ok (σ', o) ∧
      s' = ⟨Function.update s.node r σ', o.filterMap (M.puts r) ++ s.air⟩ ∧
      out = o.map fun e => (r, e) := by
  rw [whole] at h
  split_ifs at h with htakes
  refine ⟨htakes, ?_⟩
  cases hstep : step (s.node r) i with
  | error e =>
      rw [hstep] at h
      cases h
  | ok x =>
      rw [hstep] at h
      obtain ⟨rfl, rfl⟩ := Prod.mk.inj (Except.ok.inj h)
      exact ⟨x.1, x.2, rfl, rfl, rfl⟩

/-! ### One node -/

/-- The steps of a node. -/
def seenBy? (r : ρ) : Event ρ ι μ × List (ρ × ω) → Option (ι × List ω)
  | (.act r' i, out) => if r' = r then some (i, out.map Prod.snd) else none
  | (.inject _, _) => none

/-- What a trace is to a node. -/
def seenBy (r : ρ) (tr : Trace ρ ι ω μ) : List (ι × List ω) := tr.filterMap (seenBy? r)

omit [DecidableEq μ] in
theorem seenBy_snoc (tr : Trace ρ ι ω μ) (x : Event ρ ι μ × List (ρ × ω)) :
    seenBy r (tr ++ [x]) = seenBy r tr ++ (seenBy? r x).toList := by
  rw [seenBy, List.filterMap_append, seenBy]
  cases h : seenBy? r x <;> simp [h]

/-- **A run of the whole is a run of each node.** -/
theorem node_run (h : Run (M.whole step) s₀ tr s) (r : ρ) :
    Run step (s₀.node r) (seenBy r tr) (s.node r) := by
  induction h with
  | nil => exact .nil
  | @snoc tr s s' e out _ hs ih =>
      rw [seenBy_snoc]
      cases e with
      | inject m =>
          obtain ⟨rfl, -⟩ := Prod.mk.inj (Except.ok.inj hs)
          rw [seenBy?, Option.toList_none, List.append_nil]
          exact ih
      | act r' i =>
          obtain ⟨-, σ', o, hstep, rfl, rfl⟩ := whole_act hs
          rw [seenBy?]
          by_cases hr : r' = r
          · subst hr
            have hout : (o.map fun e => (r', e)).map Prod.snd = o := by simp
            rw [if_pos rfl, Option.toList_some, hout]
            change Run step _ _ (Function.update s.node r' σ' r')
            rw [Function.update_self]
            exact ih.snoc hstep
          · rw [if_neg hr, Option.toList_none, List.append_nil]
            change Run step _ _ (Function.update s.node r' σ' r)
            rw [Function.update_of_ne (Ne.symm hr)]
            exact ih

/-! ### Messages -/

/-- A node that is delivered what is on the medium takes its step in the whole. -/
theorem whole_act_ok {σ' : σ} {o : List ω} (htakes : ∀ m ∈ M.takes r i, m ∈ s.air)
    (hstep : step (s.node r) i = .ok (σ', o)) :
    M.whole step s (.act r i) = .ok (M.act s r (σ', o)) := by
  rw [whole, if_pos htakes, hstep]
  rfl

/-- The medium forgets nothing. -/
theorem air_subset (h : Run (M.whole step) s₀ tr s) : s₀.air ⊆ s.air := by
  induction h with
  | nil => exact List.Subset.refl _
  | @snoc tr s s' e out _ hs ih =>
      cases e with
      | inject m =>
          obtain ⟨rfl, -⟩ := Prod.mk.inj (Except.ok.inj hs)
          exact List.Subset.trans ih (List.subset_cons_self m s.air)
      | act r i =>
          obtain ⟨-, σ', o, -, rfl, -⟩ := whole_act hs
          exact List.Subset.trans ih (List.subset_append_right _ _)

/-- What a node has put out is on the medium. -/
theorem mem_air {e : ω} {m : μ} (h : Run (M.whole step) s₀ tr s)
    (he : e ∈ outputs (seenBy r tr)) (hm : M.puts r e = some m) : m ∈ s.air := by
  induction h with
  | nil => cases he
  | @snoc tr s s' ev out _ hs ih =>
      rw [seenBy_snoc] at he
      cases ev with
      | inject m' =>
          obtain ⟨rfl, -⟩ := Prod.mk.inj (Except.ok.inj hs)
          rw [seenBy?, Option.toList_none, List.append_nil] at he
          exact List.mem_cons_of_mem _ (ih he)
      | act r' i =>
          obtain ⟨-, σ', o, -, rfl, rfl⟩ := whole_act hs
          rw [seenBy?] at he
          split_ifs at he with hr
          · subst hr
            rw [Option.toList_some, outputs_snoc] at he
            rcases List.mem_append.mp he with he | he
            · exact List.mem_append_right _ (ih he)
            · obtain ⟨x, hx, rfl⟩ := List.mem_map.mp he
              obtain ⟨e', he', rfl⟩ := List.mem_map.mp hx
              exact List.mem_append_left _ (List.mem_filterMap.mpr ⟨e', he', hm⟩)
          · rw [Option.toList_none, List.append_nil] at he
            exact List.mem_append_right _ (ih he)

/-- **Assume and guarantee.** `G`, that a message is good, may speak about the run `tr` is a part
of. -/
theorem good_of_run {G : μ → Prop} {all : Trace ρ ι ω μ} (h : Run (M.whole step) s₀ tr s)
    (hpart : tr ⊆ all) (hair : ∀ m ∈ s₀.air, G m)
    (hinject : ∀ m, .inject m ∈ all.map Prod.fst → G m)
    (hnode : ∀ r pre σ i σ' o, Run step (s₀.node r) pre σ → step σ i = .ok (σ', o) →
      (∀ x ∈ pre ++ [(i, o)], ∀ m ∈ M.takes r x.1, G m) →
      (∀ e ∈ o, (r, e) ∈ outputs all) → ∀ e ∈ o, ∀ m ∈ M.puts r e, G m) :
    (∀ m ∈ s.air, G m) ∧ ∀ r, ∀ x ∈ seenBy r tr, ∀ m ∈ M.takes r x.1, G m := by
  induction h with
  | nil => exact ⟨hair, by rintro r x ⟨⟩⟩
  | @snoc tr s s' e out hrun hs ih =>
      obtain ⟨hpre, hlast⟩ := List.append_subset.mp hpart
      have hmem : (e, out) ∈ all := hlast (List.mem_singleton_self _)
      obtain ⟨hgood, htaken⟩ := ih hpre
      cases e with
      | inject m =>
          obtain ⟨rfl, rfl⟩ := Prod.mk.inj (Except.ok.inj hs)
          refine ⟨List.forall_mem_cons.mpr ⟨hinject m (List.mem_map_of_mem hmem), hgood⟩, ?_⟩
          intro r
          rw [seenBy_snoc, seenBy?, Option.toList_none, List.append_nil]
          exact htaken r
      | act r i =>
          obtain ⟨hair, σ', o, hstep, rfl, rfl⟩ := whole_act hs
          have hnow : ∀ x ∈ seenBy r tr ++ [(i, o)], ∀ m ∈ M.takes r x.1, G m := by
            intro x hx
            rcases List.mem_append.mp hx with hx | hx
            · exact htaken r x hx
            · rw [List.mem_singleton.mp hx]
              exact fun m hm => hgood m (hair m hm)
          have hout : ∀ e ∈ o, (r, e) ∈ outputs all := fun e he =>
            mem_outputs.mpr ⟨_, _, hmem, List.mem_map_of_mem he⟩
          constructor
          · intro m hm
            rcases List.mem_append.mp hm with hm | hm
            · obtain ⟨e, he, hput⟩ := List.mem_filterMap.mp hm
              exact hnode r _ _ i σ' o (node_run hrun r) hstep hnow hout e he m hput
            · exact hgood m hm
          · intro r' x hx
            rw [seenBy_snoc] at hx
            rcases List.mem_append.mp hx with hbefore | hnew
            · exact htaken r' x hbefore
            · rw [Option.mem_toList, seenBy?] at hnew
              split_ifs at hnew with hr
              subst hr
              rw [← Option.some.inj hnew]
              exact fun m hm => hgood m (hair m hm)

end Medium

end Machine
