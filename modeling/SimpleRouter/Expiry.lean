import SimpleRouter.Forwarding
import SimpleRouter.Learning

/-!
# Expiry

An iteration of the timer thread expires table entries and then walks over the requests, which
leaves the table alone. Entries carry the time of the reply they come from (`Stamped`), also in a
slot that is used again; an iteration invalidates by that time slot by slot, so two mappings of one
address expire each at its own time.

`expiry_exact` — **an iteration invalidates exactly the entries that are too old**, and whatever a
lookup returns after it comes from a reply at most `SR_ARPCACHE_TO` seconds older than it.
-/

namespace SimpleRouter

open Machine

section expiry

variable {ifList : List SrIf} {routingTable : List SrRt} {tr pre mid : History}
  {sr sr' s₁ s₂ s₃ : SrInstance} {env : Env} {i : Input} {out : List Effect} {e : SrArpentry}
  {now : ℤ}

/-! ### One iteration -/

/-- **A pass at time `now` is exact**: it invalidates the valid entries added more than
`SR_ARPCACHE_TO` seconds ago, and changes nothing else in any slot. -/
structure ExpiresExactly (now : ℤ) (before after : List SrArpentry) : Prop where
  /-- The slots are the same. -/
  length : after.length = before.length
  /-- An entry that is too old. -/
  hit : ∀ (k : ℕ) (e : SrArpentry), before[k]? = some e → e.valid → now - e.added > 15 →
    after[k]? = some { e with valid := false }
  /-- Any other slot. -/
  rest : ∀ (k : ℕ) (e : SrArpentry), before[k]? = some e → ¬ (e.valid ∧ now - e.added > 15) →
    after[k]? = some e

/-- `handle_arpreq` leaves the table alone. -/
theorem handleArpreq_entries {req : ℕ} (h : handleArpreq sr env req = .ok (sr', out)) :
    sr'.cache.entries = sr.cache.entries := by
  obtain ⟨_, -, ⟨-, rfl, -⟩ | ⟨-, -, -, rfl⟩ | ⟨-, -, _, _, -, -, -, rfl⟩⟩ :=
    handleArpreq_cases h <;> rfl

/-- So does the sweep. -/
theorem sweepLoop_entries {reqs : List ℕ} (h : sweepLoop env reqs sr = .ok (sr', out)) :
    sr'.cache.entries = sr.cache.entries := by
  induction reqs generalizing sr out with
  | nil =>
      obtain ⟨rfl, rfl⟩ := Prod.mk.inj (Except.ok.inj h)
      rfl
  | cons req reqs ih =>
      obtain ⟨sr₁, out₁, out₂, h₁, h₂, -⟩ := sweepLoop_cons h
      rw [ih h₂, handleArpreq_entries h₁]

/-- The table after an iteration. -/
theorem timeout_entries (h : srArpcacheTimeout sr env = .ok (sr', out)) :
    sr'.cache.entries = sr.cache.entries.map (SrArpentry.expire env.now) :=
  sweepLoop_entries h

/-- Expiring every slot does just that. -/
theorem expiresExactly_map (now : ℤ) (l : List SrArpentry) :
    ExpiresExactly now l (l.map (SrArpentry.expire now)) := by
  constructor
  case length => exact List.length_map _
  case hit =>
    intro k e hk hv hold
    rw [List.getElem?_map, hk, Option.map_some, SrArpentry.expire, if_pos ⟨hv, hold⟩]
  case rest =>
    intro k e hk hkeep
    rw [List.getElem?_map, hk, Option.map_some, SrArpentry.expire, if_neg hkeep]

/-- What is valid after an iteration is not too old. -/
theorem fresh_of_mem_expire {l : List SrArpentry} (he : e ∈ l.map (SrArpentry.expire now))
    (hv : e.valid) : now - 15 ≤ e.added := by
  obtain ⟨e', he', rfl⟩ := List.mem_map.mp he
  unfold SrArpentry.expire at hv ⊢
  split_ifs at hv ⊢ with hexp
  have hage : ¬ now - e'.added > 15 := fun hold => hexp ⟨hv, hold⟩
  omega

/-! ### Runs -/

/-- The entry comes from a reply of the trace, received at the time it carries. -/
def Stamped (tr : History) (e : SrArpentry) : Prop :=
  ∃ i out interface, (i, out) ∈ tr ∧ i.IsReply interface e.ip e.mac ∧ i.env.now = e.added

/-- No clock reading is smaller than one before it. -/
def ClockMonotone (tr : History) : Prop := (tr.map fun x => x.1.env.now).Pairwise (· ≤ ·)

/-- A stamp stays in a longer run. -/
theorem Stamped.mono {tr' : History} (hsub : ∀ i out, (i, out) ∈ tr → ∃ out', (i, out') ∈ tr')
    (h : Stamped tr e) : Stamped tr' e := by
  obtain ⟨i, out, interface, hi, hreply, hnow⟩ := h
  obtain ⟨out', hi'⟩ := hsub i out hi
  exact ⟨i, out', interface, hi', hreply, hnow⟩

/-- Every valid entry carries the time of its reply. -/
theorem stamped_inductive : Inductive Action (srInit ifList routingTable)
    fun tr sr => ∀ e ∈ sr.cache.entries, e.valid → Stamped tr e where
  init := by
    intro e he hv
    rw [(List.mem_replicate.mp he).2] at hv
    cases hv
  input := fun tr sr i hS e he hv =>
    (hS e he hv).mono fun j out hj => ⟨out, List.mem_append_left _ hj⟩
  action := by
    intro tr i out sr o sr' hS ha e he hv
    rcases ha.mem_entries he hv with he | ⟨interface, hreply, hadded⟩
    · exact (hS e he hv).mono fun j _ hj => mem_snoc_output j hj
    · exact ⟨i, out ++ o, interface, List.mem_append_right _ (List.mem_singleton_self _), hreply,
        hadded.symm⟩

/-- Entries that are not older than `t` stay so while the clock does not fall below `t`. -/
theorem fresh_inductive {t : ℤ} (h₀ : ∀ e ∈ sr.cache.entries, e.valid → t ≤ e.added) :
    Inductive Action sr fun tr sr => (∀ x ∈ tr, t ≤ x.1.env.now) →
      ∀ e ∈ sr.cache.entries, e.valid → t ≤ e.added where
  init := fun _ => h₀
  input := fun tr sr i hF hclock => hF fun x hx => hclock x (List.mem_append_left _ hx)
  action := by
    intro tr i out sr o sr' hF ha hclock e he hv
    have hnow : t ≤ i.env.now :=
      hclock _ (List.mem_append_right _ (List.mem_singleton_self (i, out ++ o)))
    rcases ha.mem_entries he hv with he | ⟨interface, -, hadded⟩
    · refine hF (fun x hx => ?_) e he hv
      rcases List.mem_append.mp hx with hx | hx
      · exact hclock x (List.mem_append_left _ hx)
      · obtain rfl := List.mem_singleton.mp hx
        exact hnow
    · exact hadded ▸ hnow

/-- **Expiry is exact.** An iteration of the timer thread in a run invalidates exactly the valid
entries that are too old. If the clock does not run backwards, a mapping that a lookup returns after
it, however much later, was inserted by a reply received at most `SR_ARPCACHE_TO` seconds before
it. -/
theorem expiry_exact (h₁ : Run step (srInit ifList routingTable) pre s₁)
    (hevent : i.event = .timer) (h₂ : step s₁ i = .ok (s₂, out)) :
    ExpiresExactly i.env.now s₁.cache.entries s₂.cache.entries ∧
    ∀ mid s₃, Run step s₂ mid s₃ → ClockMonotone (pre ++ (i, out) :: mid) →
      ∀ ip e, srArpcacheLookup s₃.cache ip = some e →
        ∃ j o interface, (j, o) ∈ pre ++ (i, out) :: mid ∧ j.IsReply interface ip e.mac ∧
          i.env.now - 15 ≤ j.env.now := by
  have hentries : s₂.cache.entries = s₁.cache.entries.map (SrArpentry.expire i.env.now) := by
    rw [step, hevent] at h₂
    exact timeout_entries h₂
  refine ⟨hentries ▸ expiresExactly_map _ _, ?_⟩
  intro mid s₃ h₃ hclock ip e he
  obtain ⟨hmem, hv, rfl⟩ := mem_of_lookup he
  have hrun : Run step (srInit ifList routingTable) (pre ++ (i, out) :: mid) s₃ := by
    rw [List.append_cons]
    exact (h₁.snoc h₂).append h₃
  obtain ⟨j, o, interface, hj, hreply, hnow⟩ :=
    stamped_inductive.run step_refines hrun e hmem hv
  have hfresh : i.env.now - 15 ≤ e.added := by
    have hpass : ∀ e ∈ s₂.cache.entries, e.valid → i.env.now - 15 ≤ e.added := by
      intro e he hv
      exact fresh_of_mem_expire (hentries ▸ he) hv
    refine (fresh_inductive hpass).run step_refines h₃ (fun x hx => ?_) e hmem hv
    rw [ClockMonotone, List.map_append, List.map_cons] at hclock
    have hle : i.env.now ≤ x.1.env.now :=
      (List.pairwise_cons.mp (List.pairwise_append.mp hclock).2.1).1 _
        (List.mem_map_of_mem (f := fun x : Input × List Effect => x.1.env.now) hx)
    omega
  exact ⟨j, o, interface, hj, hreply, hnow ▸ hfresh⟩

end expiry

/-- Two replies, at time 0 and at time 10, and an iteration at time 16: it invalidates the first
mapping, and a lookup returns the second. -/
theorem expiry_twoPort : ∃ pre i out s₁ s₂, Run step twoPort pre s₁ ∧
    i.event = .timer ∧ step s₁ i = .ok (s₂, out) ∧
    ExpiresExactly i.env.now s₁.cache.entries s₂.cache.entries ∧
    ∃ e, srArpcacheLookup s₂.cache (netAddr 2 2) = some e ∧
      ∃ j o interface, (j, o) ∈ pre ++ [(i, out)] ∧ j.IsReply interface (netAddr 2 2) e.mac ∧
        i.env.now - 15 ≤ j.env.now := by
  obtain ⟨tr, s₂, hrun, hinputs, htest⟩ := exists_run step twoPort staleInputs
    (fun sr _ => (srArpcacheLookup sr.cache (netAddr 2 2)).isSome) (by decide +kernel)
  obtain ⟨e, he⟩ := Option.isSome_iff_exists.mp htest
  have hclock : ClockMonotone tr := by
    have hnow : tr.map (fun x => x.1.env.now) = staleInputs.map fun i => i.env.now := by
      rw [← hinputs, List.map_map]
      rfl
    rw [ClockMonotone, hnow]
    decide
  obtain ⟨pre, ⟨i, out⟩, rfl⟩ : ∃ pre x, tr = pre ++ [x] := by
    rcases List.eq_nil_or_concat tr with rfl | ⟨pre, x, htr⟩
    · cases hinputs
    · exact ⟨pre, x, htr.trans List.concat_eq_append⟩
  have hi : i = ⟨stillEnv 16, .timer⟩ := by
    have hsplit : staleInputs = [_, _] ++ [⟨stillEnv 16, .timer⟩] := rfl
    rw [hsplit, List.map_append] at hinputs
    exact List.singleton_inj.mp (List.append_inj' hinputs rfl).2
  obtain ⟨s₁, s₂', h₁, h₂, h₃⟩ := hrun.split_step
  obtain rfl := h₃.eq_of_nil
  obtain ⟨hexact, hfresh⟩ := expiry_exact h₁ (hi ▸ rfl) h₂
  exact ⟨pre, i, out, s₁, s₂, h₁, hi ▸ rfl, h₂, hexact, e, he, hfresh [] s₂ .nil hclock _ e he⟩

end SimpleRouter
