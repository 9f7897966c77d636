import SimpleRouter.Amplification
import SimpleRouter.RetrySchedule

/-!
# How long a packet waits

The timer thread calls `handle_arpreq` on every request of the queue, then sleeps for a second. A
request that is called on is sent, unless it has been sent in the same second already; either way
it ages, and after five transmissions it is given up.

* `Clocked` — `time(NULL)` does not go back, and iterations of the timer thread are a second apart.
* `SentInv` — a request has not been sent, or was sent at a reading of the run's.
* `Aged` — how often a request must have been sent by now; `Aged.action`, `Aged.timer` — no action
  makes it younger, and an iteration of the timer thread makes it older.
* `served_of_run` — **a queued packet does not wait for ever**: when six iterations have passed it
  has been flushed or answered, once.
-/

namespace SimpleRouter

open Machine

/-! ### Clocks -/

/-- An iteration of the timer thread. -/
def Input.isTimer (i : Input) : Bool :=
  match i.event with
  | .timer => true
  | _ => false

/-- The readings `handle_arpreq` makes in a run.
Source: `sr_arpcache.c`, `handle_arpreq`: `time(NULL)`; `sr_arpcache_timeout`: `sleep(1.0)` -/
structure Clocked (is : List Input) : Prop where
  /-- They start after the epoch. -/
  pos : ∀ i ∈ is, ∀ req, 1 ≤ i.env.clock req
  /-- They do not go back. -/
  forward : is.Pairwise fun i j => ∀ req, i.env.clock req ≤ j.env.clock req
  /-- Those of two iterations of the timer thread are a second apart. -/
  apart : (is.filter Input.isTimer).Pairwise fun i j => ∀ req, i.env.clock req < j.env.clock req

/-- The beginning of a clocked run is clocked. -/
theorem Clocked.of_append {is js : List Input} (h : Clocked (is ++ js)) : Clocked is where
  pos i hi := h.pos i (List.mem_append_left _ hi)
  forward := (List.pairwise_append.mp h.forward).1
  apart := by
    have hapart := h.apart
    rw [List.filter_append] at hapart
    exact (List.pairwise_append.mp hapart).1

/-- The last input of a run, against those before it. -/
theorem Clocked.last {is : List Input} {j : Input} (h : Clocked (is ++ [j])) {i : Input}
    (hi : i ∈ is) (req : ℕ) : i.env.clock req ≤ j.env.clock req ∧
      (i.isTimer → j.isTimer → i.env.clock req < j.env.clock req) := by
  refine ⟨(List.pairwise_append.mp h.forward).2.2 i hi j (List.mem_singleton_self j) req, ?_⟩
  intro hit hjt
  have hapart := h.apart
  rw [List.filter_append] at hapart
  refine (List.pairwise_append.mp hapart).2.2 i (List.mem_filter.mpr ⟨hi, hit⟩) j ?_ req
  exact List.mem_filter.mpr ⟨List.mem_singleton_self j, hjt⟩

/-! ### When a request was sent -/

/-- A request was sent at a reading of the run, or not at all. -/
def SentInv (tr : History) (sr : SrInstance) : Prop :=
  CacheInv sr.cache ∧ ∀ r ∈ sr.cache.requests, (r.timesSent = 0 ∧ r.sent = 0) ∨
    (0 < r.timesSent ∧ ∃ x ∈ tr, r.sent = x.1.env.clock r.id)

section sent

variable {i : Input} {sr sr' : SrInstance} {out o : List Effect} {r : SrArpreq}

/-- **Where a request of the queue comes from**, one action later. -/
inductive Descends (i : Input) (sr : SrInstance) (r : SrArpreq) : Prop
  /-- It was there. -/
  | kept (hr : r ∈ sr.cache.requests)
  /-- A new packet has been put on it. -/
  | pushed {r₀ : SrArpreq} {pkt : SrPacket} (hr₀ : r₀ ∈ sr.cache.requests)
      (hid : pkt.id = sr.cache.pktSeq) (heq : r = r₀.push pkt)
  /-- It has been made, with a new packet. -/
  | made {ip : UInt32} {pkt : SrPacket} (hid : pkt.id = sr.cache.pktSeq)
      (heq : r = ⟨sr.cache.reqSeq, ip, 0, 0, [pkt]⟩)
  /-- It has been sent. -/
  | resent {r₀ : SrArpreq} (hr₀ : r₀ ∈ sr.cache.requests)
      (heq : r = r₀.resend (i.env.clock r₀.id))

/-- A request that is left by an action descends from one before. -/
theorem Action.descends (hI : CacheInv sr.cache) (h : Action i sr out sr')
    (hr : r ∈ sr'.cache.requests) : Descends i sr r := by
  cases h with
  | respond | forward | reply | expire | dangling => exact .kept hr
  | @queue _ packet _ rt _ _ hverdict =>
      have hp := queued_ne_nil hverdict
      cases hfind : Keyed.find SrArpreq.ip rt.gw sr.cache.requests with
      | none =>
          rw [queuereq_new hp hfind] at hr
          rcases List.mem_cons.mp hr with rfl | hr
          · exact .made rfl rfl
          · exact .kept hr
      | some req =>
          rw [queuereq_found hp hfind] at hr
          have hreq := Keyed.mem_of_find hfind
          rcases (Keyed.mem_modify_iff hI.id_nodup
            ((Keyed.find_eq_some_iff hI.id_nodup).mpr ⟨hreq, rfl⟩)).mp hr with rfl | ⟨hr, -⟩
          · exact .pushed hreq rfl rfl
          · exact .kept hr
  | learn => exact .kept (Keyed.mem_of_mem_erase hr)
  | flush => exact .kept (Keyed.mem_of_mem_erase (Keyed.mem_of_mem_erase hr))
  | transmit hfind =>
      rcases mem_resendCache hI.id_nodup (Keyed.mem_of_find hfind) hr with rfl | ⟨hr, -⟩
      · exact .resent (Keyed.mem_of_find hfind) rfl
      · exact .kept hr
  | giveUp => exact .kept (Keyed.mem_of_mem_erase hr)

/-- An action keeps it. -/
theorem SentInv.action {tr : History} (hS : SentInv (tr ++ [(i, out)]) sr)
    (h : Action i sr o sr') : SentInv (tr ++ [(i, out ++ o)]) sr' := by
  obtain ⟨hI, hS⟩ := hS
  refine ⟨hI.action h, ?_⟩
  intro r hr
  -- what was sent in this step so far was sent at a reading of the same input
  have hold : ∀ r₀ ∈ sr.cache.requests, (r₀.timesSent = 0 ∧ r₀.sent = 0) ∨
      (0 < r₀.timesSent ∧ ∃ x ∈ tr ++ [(i, out ++ o)], r₀.sent = x.1.env.clock r₀.id) := by
    intro r₀ hr₀
    refine (hS r₀ hr₀).imp_right ?_
    rintro ⟨hpos, x, hx, heq⟩
    refine ⟨hpos, ?_⟩
    rcases List.mem_append.mp hx with hx | hx
    · exact ⟨x, List.mem_append_left _ hx, heq⟩
    · rw [List.mem_singleton.mp hx] at heq
      exact ⟨_, List.mem_append_right _ (List.mem_singleton_self _), heq⟩
  cases h.descends hI hr with
  | kept hr => exact hold r hr
  | pushed hr₀ _ heq =>
      have hreq := hold _ hr₀
      rwa [heq]
  | made _ heq =>
      rw [heq]
      exact .inl ⟨rfl, rfl⟩
  | resent _ heq =>
      rw [heq]
      exact .inr ⟨Nat.succ_pos _, _, List.mem_append_right _ (List.mem_singleton_self _), rfl⟩

/-- It holds in every run. -/
theorem sentInv_of_run {ifList : List SrIf} {routingTable : List SrRt} {tr : History}
    (h : Run step (srInit ifList routingTable) tr sr) : SentInv tr sr := by
  have hind : Inductive Action (srInit ifList routingTable) SentInv := by
    constructor
    case init =>
      refine ⟨CacheInv.init, ?_⟩
      rintro r ⟨⟩
    case input =>
      rintro tr sr i ⟨hI, hS⟩
      refine ⟨hI, fun r hr => (hS r hr).imp_right ?_⟩
      rintro ⟨hpos, x, hx, heq⟩
      exact ⟨hpos, x, List.mem_append_left _ hx, heq⟩
    case action =>
      intro tr i out sr o sr' hS h
      exact hS.action h
  exact hind.run step_refines h

end sent

/-! ### An iteration of the timer thread -/

section timer

variable {sr sr' : SrInstance} {env : Env} {out : List Effect} {r : SrArpreq}

/-- What `handle_arpreq` leaves of the request it is called on. -/
def SrArpreq.Left (env : Env) (r₀ r : SrArpreq) : Prop :=
  (¬ env.clock r₀.id - r₀.sent ≥ 1 ∧ r = r₀) ∨
    (env.clock r₀.id - r₀.sent ≥ 1 ∧ r = r₀.resend (env.clock r₀.id))

/-- What `handle_arpreq` leaves of its own request. -/
theorem handleArpreq_left (h : handleArpreq sr env r.id = .ok (sr', out))
    (hnd : (sr.cache.requests.map SrArpreq.id).Nodup) (hr : r ∈ sr'.cache.requests) :
    ∃ r₀ ∈ sr.cache.requests, r₀.id = r.id ∧ SrArpreq.Left env r₀ r := by
  obtain ⟨node, hfind, hcases⟩ := handleArpreq_cases h
  have hnode := Keyed.mem_of_find hfind
  have hid := Keyed.key_of_find hfind
  rcases hcases with ⟨hdue, rfl, -⟩ | ⟨-, -, -, rfl⟩ | ⟨hdue, -, _, _, -, -, -, rfl⟩
  · have hsame : node = r := List.inj_on_of_nodup_map hnd hnode hr hid
    exact ⟨node, hnode, hid, .inl ⟨hid ▸ hdue, hsame.symm⟩⟩
  · exact absurd rfl ((Keyed.mem_erase_iff hnd).mp hr).2
  · rw [← hid] at hfind hdue hr
    rcases (Keyed.mem_modify_iff hnd hfind).mp hr with rfl | ⟨-, hne⟩
    · exact ⟨node, hnode, rfl, .inr ⟨hdue, rfl⟩⟩
    · exact absurd hid.symm hne

/-- What a sweep leaves of a request it walks over. -/
theorem sweepLoop_left {ids : List ℕ} (h : sweepLoop env ids sr = .ok (sr', out))
    (hnd : (sr.cache.requests.map SrArpreq.id).Nodup) (hids : ids.Nodup)
    (hr : r ∈ sr'.cache.requests) (hid : r.id ∈ ids) :
    ∃ r₀ ∈ sr.cache.requests, r₀.id = r.id ∧ SrArpreq.Left env r₀ r := by
  induction ids generalizing sr out with
  | nil => cases hid
  | cons id ids ih =>
      obtain ⟨sr₁, out₁, out₂, h₁, h₂, -⟩ := sweepLoop_cons h
      have hnd₁ := handleArpreq_nodup h₁ hnd
      obtain ⟨hnot, hids⟩ := List.nodup_cons.mp hids
      by_cases heq : r.id = id
      · subst heq
        exact handleArpreq_left h₁ hnd ((sweepLoop_frame h₂ hnd₁ hnot).mp hr)
      · obtain ⟨r₀, hr₀, hid₀, hleft⟩ :=
          ih h₂ hnd₁ hids ((List.mem_cons.mp hid).resolve_left heq)
        have hne : r₀.id ≠ id := fun h => heq (hid₀.symm.trans h)
        exact ⟨r₀, (handleArpreq_frame h₁ hnd hne).mp hr₀, hid₀, hleft⟩

/-- **An iteration of the timer thread calls `handle_arpreq` on every request.** -/
theorem timer_left (h : srArpcacheTimeout sr env = .ok (sr', out)) (hI : CacheInv sr.cache)
    (hr : r ∈ sr'.cache.requests) :
    ∃ r₀ ∈ sr.cache.requests, r₀.id = r.id ∧ SrArpreq.Left env r₀ r := by
  -- expiring entries leaves the queue alone
  have hexpire : sweepLoop env (sr.cache.requests.map SrArpreq.id)
      { sr with cache := sr.cache.expire env.now } = .ok (sr', out) := h
  by_cases hid : r.id ∈ sr.cache.requests.map SrArpreq.id
  · obtain ⟨r₀, hr₀, hleft⟩ := sweepLoop_left hexpire hI.id_nodup hI.id_nodup hr hid
    exact ⟨r₀, hr₀, hleft⟩
  · exact absurd (List.mem_map_of_mem ((sweepLoop_frame hexpire hI.id_nodup hid).mp hr)) hid

end timer

/-! ### Growing old -/

/-- The request at address `q`, if it is on the queue, has been sent `k` times, and once more if it
has been sent after time `t`. -/
def Aged (q k : ℕ) (t : ℤ) (sr : SrInstance) : Prop :=
  ∀ r ∈ sr.cache.requests, r.id = q → k ≤ r.timesSent ∧ (t < r.sent → k < r.timesSent)

section aged

variable {i : Input} {sr sr' : SrInstance} {out : List Effect} {q k : ℕ} {t : ℤ}

/-- Nothing that happens makes a request younger. -/
theorem Aged.action (hA : Aged q k t sr) (hI : CacheInv sr.cache) (hq : q < sr.cache.reqSeq)
    (h : Action i sr out sr') : Aged q k t sr' := by
  intro r hr hid
  cases h.descends hI hr with
  | kept hr => exact hA r hr hid
  | pushed hr₀ _ heq =>
      have hage := hA _ hr₀
      rw [heq] at hid ⊢
      exact hage hid
  | made _ heq =>
      -- the next request is at a new address
      rw [heq] at hid
      exact absurd hid hq.ne'
  | resent hr₀ heq =>
      subst heq
      have hle := (hA _ hr₀ hid).1
      exact ⟨hle.trans (Nat.le_succ _), fun _ => Nat.lt_succ_of_le hle⟩

/-- An iteration of the timer thread makes it older. -/
theorem Aged.timer (hA : Aged q k t sr) (hI : CacheInv sr.cache)
    (ht : t < i.env.clock q) (hle : ∀ r ∈ sr.cache.requests, r.id = q → r.sent ≤ i.env.clock q)
    (h : srArpcacheTimeout sr i.env = .ok (sr', out)) : Aged q (k + 1) (i.env.clock q) sr' := by
  intro r hr hid
  obtain ⟨r₀, hr₀, hid₀, ⟨hdue, rfl⟩ | ⟨-, rfl⟩⟩ := timer_left h hI hr
  · -- not due: sent in this very second, hence after `t`
    have hsent := hle r hr₀ hid
    rw [hid] at hdue
    have hafter := (hA r hr₀ hid).2 (by omega)
    exact ⟨hafter, fun hlt => absurd hsent hlt.not_ge⟩
  · have hage := (hA r₀ hr₀ hid).1
    refine ⟨Nat.succ_le_succ hage, fun hlt => absurd hlt ?_⟩
    rw [SrArpreq.resend, show r₀.id = q from hid]
    exact lt_irrefl _

/-- Addresses of requests are not used again. -/
theorem Action.seq_le (h : Action i sr out sr') :
    sr.cache.reqSeq ≤ sr'.cache.reqSeq ∧ sr.cache.pktSeq ≤ sr'.cache.pktSeq := by
  cases h with
  | queue =>
      simp only [srArpcacheQueuereq]
      split
      · exact ⟨le_rfl, Nat.le_succ _⟩
      · exact ⟨Nat.le_succ _, Nat.le_succ _⟩
  | _ => exact ⟨le_rfl, le_rfl⟩

/-- The request was sent before the last reading. -/
theorem SentInv.sent_le {tr : History} (hS : SentInv tr sr)
    (hc : Clocked (tr.map Prod.fst ++ [i])) :
    ∀ r ∈ sr.cache.requests, r.id = q → r.sent ≤ i.env.clock q := by
  rintro r hr rfl
  rcases hS.2 r hr with ⟨-, hsent⟩ | ⟨-, x, hx, hsent⟩
  · have hpos := hc.pos i (List.mem_append_right _ (List.mem_singleton_self i)) r.id
    omega
  · rw [hsent]
    exact (hc.last (List.mem_map_of_mem hx) r.id).1

/-- A step ages the requests there are if it is an iteration of the timer thread, and keeps their
age otherwise. -/
theorem Aged.step {tr : History} (hA : Aged q k t sr) (hS : SentInv tr sr)
    (hq : q < sr.cache.reqSeq) (hc : Clocked (tr.map Prod.fst ++ [i])) (ht : i.isTimer →
      t < i.env.clock q) (h : step sr i = .ok (sr', out)) :
    q < sr'.cache.reqSeq ∧ Aged q (k + if i.isTimer then 1 else 0)
      (if i.isTimer then i.env.clock q else t) sr' := by
  have hkeep : (CacheInv sr'.cache ∧ q < sr'.cache.reqSeq) ∧ Aged q k t sr' := by
    refine Path.preserves (P := fun _ s => (CacheInv s.cache ∧ q < s.cache.reqSeq) ∧ Aged q k t s)
      ?_ ⟨⟨hS.1, hq⟩, hA⟩ (step_refines _ _ _ _ h)
    rintro _ s o s' ⟨⟨hI, hq⟩, hA⟩ ha
    exact ⟨⟨hI.action ha, hq.trans_le ha.seq_le.1⟩, hA.action hI hq ha⟩
  refine ⟨hkeep.1.2, ?_⟩
  by_cases hi : i.isTimer
  · rw [if_pos hi, if_pos hi]
    refine hA.timer hS.1 (ht hi) (hS.sent_le hc)
      (show srArpcacheTimeout sr i.env = .ok (sr', out) from ?_)
    unfold Input.isTimer at hi
    unfold SimpleRouter.step at h
    split at hi
    · rename_i hevent
      rwa [hevent] at h
    · cases hi
  · rw [if_neg hi, if_neg hi]
    exact hkeep.2

end aged

/-! ### Runs -/

section runs

variable {ifList : List SrIf} {routingTable : List SrRt} {pre post : History}
  {sr₁ sr : SrInstance} {q : ℕ}

/-- In a run that goes on from `sr₁`, every iteration of the timer thread ages the requests of
`sr₁`. -/
theorem aged_of_run (h₀ : Run step (srInit ifList routingTable) pre sr₁)
    (h : Run step sr₁ post sr) (hc : Clocked ((pre ++ post).map Prod.fst))
    (hq : q < sr₁.cache.reqSeq) :
    q < sr.cache.reqSeq ∧ ∃ t, (t = 0 ∨ ∃ x ∈ post, x.1.isTimer ∧ t = x.1.env.clock q) ∧
      Aged q (post.countP fun x => x.1.isTimer) t sr := by
  induction h with
  | nil =>
      refine ⟨hq, 0, .inl rfl, fun r hr _ => ⟨Nat.zero_le _, fun hsent => ?_⟩⟩
      rcases (sentInv_of_run h₀).2 r hr with ⟨-, hzero⟩ | ⟨hpos, -⟩
      · omega
      · exact hpos
  | @snoc tr s s' i out hrun hs ih =>
      have hc' : Clocked ((pre ++ tr).map Prod.fst ++ [i]) := by
        rwa [← List.append_assoc, List.map_append] at hc
      obtain ⟨hq', t, ht, hA⟩ := ih hc'.of_append
      have hlater : i.isTimer → t < i.env.clock q := by
        intro hi
        rcases ht with rfl | ⟨x, hx, hxt, rfl⟩
        · exact hc'.pos i (List.mem_append_right _ (List.mem_singleton_self i)) q
        · have hmem := List.mem_map_of_mem (f := Prod.fst) (List.mem_append_right pre hx)
          exact (hc'.last hmem q).2 hxt hi
      obtain ⟨hq'', hA'⟩ := hA.step (sentInv_of_run (h₀.append hrun)) hq' hc' hlater hs
      refine ⟨hq'', _, ?_, by rwa [List.countP_append, List.countP_singleton]⟩
      by_cases hi : i.isTimer
      · rw [if_pos hi]
        exact .inr ⟨_, List.mem_append_right _ (List.mem_singleton_self _), hi, rfl⟩
      · rw [if_neg hi]
        refine ht.imp_right ?_
        rintro ⟨x, hx, hxt, rfl⟩
        exact ⟨x, List.mem_append_left _ hx, hxt, rfl⟩

/-- Six iterations of the timer thread outlast every request there is. -/
theorem request_gone (h₀ : Run step (srInit ifList routingTable) pre sr₁)
    (h : Run step sr₁ post sr) (hc : Clocked ((pre ++ post).map Prod.fst))
    (hsix : 6 ≤ post.countP fun x => x.1.isTimer) :
    ∀ r ∈ sr.cache.requests, sr₁.cache.reqSeq ≤ r.id := by
  intro r hr
  by_contra hlt
  obtain ⟨-, t, -, hA⟩ := aged_of_run h₀ h hc (not_le.mp hlt)
  have hage := (hA r hr rfl).1
  have hfive := (runInv_of_run (h₀.append h)).cache.times_le r hr
  omega

/-- Requests made after `sr₁` hold packets queued after `sr₁`. -/
theorem newer_of_run (hI : CacheInv sr₁.cache) (h : Run step sr₁ post sr) :
    ∀ r ∈ sr.cache.requests, sr₁.cache.reqSeq ≤ r.id →
      ∀ pkt ∈ r.packets, sr₁.cache.pktSeq ≤ pkt.id := by
  have hind : Inductive Action sr₁ fun _ s => CacheInv s.cache ∧
      (sr₁.cache.reqSeq ≤ s.cache.reqSeq ∧ sr₁.cache.pktSeq ≤ s.cache.pktSeq) ∧
      ∀ r ∈ s.cache.requests, sr₁.cache.reqSeq ≤ r.id →
        ∀ pkt ∈ r.packets, sr₁.cache.pktSeq ≤ pkt.id := by
    constructor
    case init => exact ⟨hI, ⟨le_rfl, le_rfl⟩, fun r hr hle => absurd (hI.id_lt r hr) hle.not_gt⟩
    case input => exact fun _ _ _ h => h
    case action =>
      rintro tr i out s o s' ⟨hI, ⟨hreq, hpkt⟩, hnew⟩ ha
      refine ⟨hI.action ha, ⟨hreq.trans ha.seq_le.1, hpkt.trans ha.seq_le.2⟩, ?_⟩
      intro r hr hid pkt hmem
      cases ha.descends hI hr with
      | kept hr => exact hnew r hr hid pkt hmem
      | pushed hr₀ hpid heq =>
          subst heq
          rcases List.mem_cons.mp hmem with rfl | hmem
          · exact hpkt.trans hpid.ge
          · exact hnew _ hr₀ hid pkt hmem
      | made hpid heq =>
          rw [heq] at hmem
          rw [List.mem_singleton.mp hmem]
          exact hpkt.trans hpid.ge
      | resent hr₀ heq =>
          subst heq
          exact hnew _ hr₀ hid pkt hmem
  exact (hind.run step_refines h).2.2

/-- **A queued packet does not wait for ever.** When six iterations of the timer thread have passed
since it was queued, whatever else has happened, it is not on the queue, and has been flushed by an
ARP reply or answered with host unreachable, once. -/
theorem served_of_run {ip : UInt32} {pkt : SrPacket}
    (h : Run step (srInit ifList routingTable) (pre ++ post) sr)
    (hc : Clocked ((pre ++ post).map Prod.fst))
    (hsix : 6 ≤ post.countP fun x => x.1.isTimer) (he : .enqueue ip pkt ∈ outputs pre) :
    occurrences pkt (waiting sr.cache) = 0 ∧
      occurrences pkt (flushed (outputs (pre ++ post))) +
        occurrences pkt (unreachable (outputs (pre ++ post))) = 1 := by
  obtain ⟨sr₁, h₁, h₂⟩ := h.split
  have hC := custody_of_run h₁
  have he' : .enqueue ip pkt ∈ outputs (pre ++ post) := by
    rw [outputs, List.flatMap_append]
    exact List.mem_append_left _ he
  have hnone : occurrences pkt (waiting sr.cache) = 0 := by
    refine List.count_eq_zero.mpr fun hmem => ?_
    obtain ⟨⟨ip', pkt'⟩, hx, hid⟩ := List.mem_map.mp hmem
    obtain ⟨r, hr, -, hpkt⟩ := mem_waiting_iff.mp hx
    -- the request it would be on is too young to hold it
    have hold := newer_of_run hC.cache h₂ r hr (request_gone h₁ h₂ hc hsix r hr) pkt' hpkt
    have hlt := hC.id_lt _ (mem_enqueued_iff.mpr he)
    exact absurd hold (by rw [show pkt'.id = pkt.id from hid]; exact hlt.not_ge)
  have hsum := (custody_of_run h).occurrences_eq he'
  exact ⟨hnone, by omega⟩

end runs

/-- Six iterations of the timer thread, the first at time 1. -/
def sixTimers : List Input := ⟨stillEnv 1, .timer⟩ :: fiveTimers

/-- The run of six timer iterations is clocked. -/
theorem clocked_sixTimers : Clocked (firstArrival :: sixTimers) := by
  constructor
  · simp [sixTimers, fiveTimers, firstArrival, arrivalOn, stillEnv]
  · simp [sixTimers, fiveTimers, firstArrival, arrivalOn, stillEnv]
  · rw [show (firstArrival :: sixTimers).filter Input.isTimer = sixTimers from rfl]
    simp [sixTimers, fiveTimers, stillEnv]

/-- Six iterations it is: a packet queued at time 1 still waits after the first five of them, the
first of which comes too soon; after the sixth it has been answered. -/
theorem served_twoPort : (∃ tr sr, Run step twoPort tr sr ∧
      tr.map Prod.fst = firstArrival :: sixTimers.take 5 ∧
      occurrences firstPkt (waiting sr.cache) = 1) ∧
    ∃ tr sr, Run step twoPort tr sr ∧ tr.map Prod.fst = firstArrival :: sixTimers ∧
      occurrences firstPkt (waiting sr.cache) = 0 ∧
      occurrences firstPkt (flushed (outputs tr)) +
        occurrences firstPkt (unreachable (outputs tr)) = 1 := by
  constructor
  · obtain ⟨tr, sr, hrun, hinputs, htest⟩ := exists_run step twoPort
      (firstArrival :: sixTimers.take 5)
      (fun sr _ => occurrences firstPkt (waiting sr.cache) = 1) (by decide +kernel)
    exact ⟨tr, sr, hrun, hinputs, of_decide_eq_true htest⟩
  · obtain ⟨tr, sr, hrun, hinputs, htest⟩ := exists_run step twoPort (firstArrival :: sixTimers)
      (fun _ tr => .enqueue (netAddr 2 2) firstPkt ∈ outputs (tr.take 1) ∧
        (tr.drop 1).countP (fun x => x.1.isTimer) = 6) (by decide +kernel)
    obtain ⟨hqueued, hsix⟩ := of_decide_eq_true htest
    refine ⟨tr, sr, hrun, hinputs, ?_⟩
    rw [← List.take_append_drop 1 tr] at hrun hinputs ⊢
    exact served_of_run hrun (hinputs ▸ clocked_sixTimers) hsix.ge hqueued

end SimpleRouter
