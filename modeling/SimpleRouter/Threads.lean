import SimpleRouter.Egress

/-!
# The receive thread and the timer thread

`handle_ip_packet` takes the cache lock twice, in `sr_arpcache_lookup` and `sr_arpcache_queuereq`,
and then calls `handle_arpreq` without it, on the pointer the second call returned. The timer
thread holds the lock for a whole iteration, and may run between any two of the three.

`threadStep` gives the threads turns: a turn of the timer thread is one iteration, one of the
receive thread is its next atomic section. `turns_of_step` says that three turns of the
receive thread in a row are one call of `handle_ip_packet`.

* `timer_live_iff` — which requests an iteration of the timer thread leaves on the queue.
* `pendingLive_iff` — **when the pending request is live**: in every state of a run the request
  that `handle_arpreq` is about to be called on is on the queue exactly if no iteration that runs
  while a request is pending finds it sent five times, the last time a second ago or more.
  Otherwise `handle_arpreq` gets a freed request (`pending_destroyed`).
-/

namespace SimpleRouter

open Buffer Machine

/-! ### What the timer leaves -/

section timer

variable {sr sr' : SrInstance} {env : Env} {out : List Effect}

/-- The request is due to be given up. -/
def SrArpreq.Expired (env : Env) (req : SrArpreq) : Prop :=
  req.timesSent ≥ 5 ∧ env.clock req.id - req.sent ≥ 1

/-- `handle_arpreq` touches no other request. -/
theorem handleArpreq_frame {id : ℕ} {r : SrArpreq} (h : handleArpreq sr env id = .ok (sr', out))
    (hnd : (sr.cache.requests.map SrArpreq.id).Nodup) (hid : r.id ≠ id) :
    r ∈ sr'.cache.requests ↔ r ∈ sr.cache.requests := by
  obtain ⟨node, hfind, ⟨-, rfl, -⟩ | ⟨-, -, -, rfl⟩ | ⟨-, -, _, _, -, -, -, rfl⟩⟩ :=
    handleArpreq_cases h
  · rfl
  · rw [destroy_requests, Keyed.mem_erase_iff hnd]
    exact and_iff_left hid
  · rw [resendCache, Keyed.mem_modify_iff hnd hfind]
    constructor
    · rintro (rfl | ⟨hr, -⟩)
      · exact absurd (Keyed.key_of_find hfind) hid
      · exact hr
    · intro hr
      exact .inr ⟨hr, hid⟩

/-- It leaves the request on the queue unless it gives it up. -/
theorem handleArpreq_live_iff {r : SrArpreq} (h : handleArpreq sr env r.id = .ok (sr', out))
    (hnd : (sr.cache.requests.map SrArpreq.id).Nodup) (hr : r ∈ sr.cache.requests) :
    (∃ r' ∈ sr'.cache.requests, r'.id = r.id) ↔ ¬ r.Expired env := by
  obtain ⟨node, hfind, hcases⟩ := handleArpreq_cases h
  obtain rfl := Option.some.inj (((Keyed.find_eq_some_iff hnd).mpr ⟨hr, rfl⟩).symm.trans hfind)
  rcases hcases with ⟨hdue, rfl, -⟩ | ⟨hdue, htimes, -, rfl⟩ | ⟨-, htimes, _, _, -, -, -, rfl⟩
  · exact iff_of_true ⟨r, hr, rfl⟩ fun hexp => hdue hexp.2
  · refine iff_of_false ?_ (not_not.mpr ⟨htimes, hdue⟩)
    rintro ⟨r', hr', hid⟩
    exact ((Keyed.mem_erase_iff hnd).mp hr').2 hid
  · refine iff_of_true ⟨r.resend (env.clock r.id), ?_, rfl⟩ fun hexp => absurd hexp.1 (by omega)
    exact (Keyed.mem_modify_iff hnd hfind).mpr (.inl rfl)

/-- Distinct addresses stay distinct. -/
theorem handleArpreq_nodup {id : ℕ} (h : handleArpreq sr env id = .ok (sr', out))
    (hnd : (sr.cache.requests.map SrArpreq.id).Nodup) :
    (sr'.cache.requests.map SrArpreq.id).Nodup := by
  obtain ⟨node, -, ⟨-, rfl, -⟩ | ⟨-, -, -, rfl⟩ | ⟨-, -, _, _, -, -, -, rfl⟩⟩ :=
    handleArpreq_cases h
  · exact hnd
  · exact Keyed.map_erase_nodup hnd
  · have hids : (resendCache sr.cache id (env.clock id)).requests.map SrArpreq.id =
        sr.cache.requests.map SrArpreq.id := Keyed.map_modify fun _ => rfl
    exact hids.symm ▸ hnd

/-- The sweep touches only the requests it walks over. -/
theorem sweepLoop_frame {ids : List ℕ} {r : SrArpreq} (h : sweepLoop env ids sr = .ok (sr', out))
    (hnd : (sr.cache.requests.map SrArpreq.id).Nodup) (hid : r.id ∉ ids) :
    r ∈ sr'.cache.requests ↔ r ∈ sr.cache.requests := by
  induction ids generalizing sr out with
  | nil =>
      obtain ⟨rfl, rfl⟩ := Prod.mk.inj (Except.ok.inj h)
      rfl
  | cons id ids ih =>
      obtain ⟨sr₁, out₁, out₂, h₁, h₂, -⟩ := sweepLoop_cons h
      rw [ih h₂ (handleArpreq_nodup h₁ hnd) (List.not_mem_of_not_mem_cons hid),
        handleArpreq_frame h₁ hnd (List.ne_of_not_mem_cons hid)]

/-- The sweep leaves each request it walks over on the queue unless it gives it up. -/
theorem sweepLoop_live_iff {ids : List ℕ} {r : SrArpreq}
    (h : sweepLoop env ids sr = .ok (sr', out)) (hnd : (sr.cache.requests.map SrArpreq.id).Nodup)
    (hids : ids.Nodup) (hr : r ∈ sr.cache.requests) (hid : r.id ∈ ids) :
    (∃ r' ∈ sr'.cache.requests, r'.id = r.id) ↔ ¬ r.Expired env := by
  induction ids generalizing sr out with
  | nil => cases hid
  | cons id ids ih =>
      obtain ⟨sr₁, out₁, out₂, h₁, h₂, -⟩ := sweepLoop_cons h
      have hnd₁ := handleArpreq_nodup h₁ hnd
      obtain ⟨hnot, hids⟩ := List.nodup_cons.mp hids
      by_cases heq : r.id = id
      · -- handled now, and not walked over again
        subst heq
        rw [← handleArpreq_live_iff h₁ hnd hr]
        constructor
        · rintro ⟨r', hr', hid'⟩
          exact ⟨r', (sweepLoop_frame h₂ hnd₁ (hid' ▸ hnot)).mp hr', hid'⟩
        · rintro ⟨r', hr', hid'⟩
          exact ⟨r', (sweepLoop_frame h₂ hnd₁ (hid' ▸ hnot)).mpr hr', hid'⟩
      · have hmem : r.id ∈ ids := (List.mem_cons.mp hid).resolve_left heq
        exact ih h₂ hnd₁ hids ((handleArpreq_frame h₁ hnd heq).mpr hr) hmem

/-- **Which requests an iteration of the timer thread leaves on the queue.** -/
theorem timer_live_iff {r : SrArpreq} (h : srArpcacheTimeout sr env = .ok (sr', out))
    (hI : CacheInv sr.cache) (hr : r ∈ sr.cache.requests) :
    (∃ r' ∈ sr'.cache.requests, r'.id = r.id) ↔ ¬ r.Expired env :=
  sweepLoop_live_iff h hI.id_nodup hI.id_nodup hr (List.mem_map_of_mem hr)

end timer

/-! ### Turns of the two threads -/

/-- Where the receive thread is. -/
inductive RecvPoint where
  /-- Between two frames. -/
  | idle
  /-- In `handle_ip_packet`, after `sr_arpcache_lookup` has returned null. -/
  | missed (packet : List UInt8) (rt : SrRt)
  /-- In `handle_ip_packet`, after `sr_arpcache_queuereq` has returned the request `req`. -/
  | queued (req : ℕ)
deriving DecidableEq

/-- The instance the threads share, and where the receive thread is. -/
structure Threads where
  /-- The instance. -/
  sr : SrInstance
  /-- The receive thread. -/
  recv : RecvPoint

/-- Whose turn it is. -/
inductive Turn where
  /-- The receive thread; between two frames it takes the one given. -/
  | receive (buf : List UInt8) (interface : IfaceName)
  /-- The timer thread. -/
  | timer

/-- A turn and its environment. -/
structure TurnInput where
  /-- What the thread learns from outside. -/
  env : Env
  /-- Whose turn it is. -/
  turn : Turn

/-- The packet and route with which a frame ends in a cache miss, if it does. -/
def missOf (sr : SrInstance) (env : Env) (buf : List UInt8) : Option (List UInt8 × SrRt) :=
  if ethertype buf env.after = 0x0800 then
    match ipPacketVerdict sr buf with
    | .ok (.queue packet rt) => some (packet, rt)
    | _ => none
  else none

/-- A turn. A frame that does not end in a cache miss is handled in one.
Source: `sr_router.c`, `handle_ip_packet`; `sr_arpcache.c`, `sr_arpcache_timeout` -/
def threadStep (st : Threads) (i : TurnInput) : Except Fault (Threads × List Effect) :=
  match i.turn, st.recv with
  | .timer, _ => do
      let (sr, out) ← srArpcacheTimeout st.sr i.env
      .ok ({ st with sr := sr }, out)
  | .receive buf interface, .idle =>
      match missOf st.sr i.env buf with
      | some (packet, rt) => .ok ({ st with recv := .missed packet rt }, [])
      | none => do
          let (sr, out) ← srHandlepacket st.sr i.env buf interface
          .ok ({ st with sr := sr }, out)
  | .receive _ _, .missed packet rt =>
      let queued := srArpcacheQueuereq st.sr.cache rt.gw packet rt.interface
      .ok (⟨{ st.sr with cache := queued.1 }, .queued queued.2⟩,
        [.enqueue rt.gw (st.sr.cache.newPacket packet rt.interface)])
  | .receive _ _, .queued req => do
      let (sr, out) ← handleArpreq st.sr i.env req
      .ok (⟨sr, .idle⟩, out)

section turns

variable {sr sr' : SrInstance} {env : Env} {buf : List UInt8} {out : List Effect}

/-- A miss is a packet to be queued. -/
theorem verdict_of_miss {packet : List UInt8} {rt : SrRt}
    (h : missOf sr env buf = some (packet, rt)) :
    ethertype buf env.after = 0x0800 ∧ ipPacketVerdict sr buf = .ok (.queue packet rt) := by
  unfold missOf at h
  split_ifs at h with htype
  refine ⟨htype, ?_⟩
  split at h
  · rename_i hverdict
    obtain ⟨rfl, rfl⟩ := Prod.mk.inj (Option.some.inj h)
    exact hverdict
  · cases h

/-- The three turns of the receive thread on a cache miss. -/
theorem turns_of_miss {packet : List UInt8} {rt : SrRt} (interface : IfaceName)
    (hmiss : missOf sr env buf = some (packet, rt)) (h : handleArpreq
      { sr with cache := (srArpcacheQueuereq sr.cache rt.gw packet rt.interface).1 } env
      (srArpcacheQueuereq sr.cache rt.gw packet rt.interface).2 = .ok (sr', out)) :
    ∃ tr, Run threadStep ⟨sr, .idle⟩ tr ⟨sr', .idle⟩ ∧
      outputs tr = .enqueue rt.gw (sr.cache.newPacket packet rt.interface) :: out := by
  have hlookup : threadStep ⟨sr, .idle⟩ ⟨env, .receive buf interface⟩ =
      .ok (⟨sr, .missed packet rt⟩, []) := by
    simp only [threadStep, hmiss]
  have hqueue : threadStep ⟨sr, .missed packet rt⟩ ⟨env, .receive buf interface⟩ =
      .ok (⟨{ sr with cache := (srArpcacheQueuereq sr.cache rt.gw packet rt.interface).1 },
        .queued (srArpcacheQueuereq sr.cache rt.gw packet rt.interface).2⟩,
        [.enqueue rt.gw (sr.cache.newPacket packet rt.interface)]) := rfl
  have hhandle : threadStep
      ⟨{ sr with cache := (srArpcacheQueuereq sr.cache rt.gw packet rt.interface).1 },
        .queued (srArpcacheQueuereq sr.cache rt.gw packet rt.interface).2⟩
      ⟨env, .receive buf interface⟩ = .ok (⟨sr', .idle⟩, out) :=
    ok_bind_iff.mpr ⟨(sr', out), h, rfl⟩
  exact ⟨_, ((Run.nil.snoc hlookup).snoc hqueue).snoc hhandle, by simp [outputs]⟩

/-- **Turns in a row are a step**: what the router does to a frame or in a timer iteration, the
threads do in turns that follow each other. -/
theorem turns_of_step {i : Input} (hevent : ∀ req, i.event ≠ .arpreq req)
    (h : step sr i = .ok (sr', out)) :
    ∃ tr, Run threadStep ⟨sr, .idle⟩ tr ⟨sr', .idle⟩ ∧ outputs tr = out := by
  obtain ⟨env, event⟩ := i
  cases event with
  | arpreq req => exact absurd rfl (hevent req)
  | timer =>
      have hturn : threadStep ⟨sr, .idle⟩ ⟨env, .timer⟩ = .ok (⟨sr', .idle⟩, out) :=
        ok_bind_iff.mpr ⟨(sr', out), h, rfl⟩
      exact ⟨_, Run.nil.snoc hturn, by simp [outputs]⟩
  | packet buf interface =>
      cases hmiss : missOf sr env buf with
      | none =>
          have hturn : threadStep ⟨sr, .idle⟩ ⟨env, .receive buf interface⟩ =
              .ok (⟨sr', .idle⟩, out) := by
            simp only [threadStep, hmiss]
            exact ok_bind_iff.mpr ⟨(sr', out), h, rfl⟩
          exact ⟨_, Run.nil.snoc hturn, by simp [outputs]⟩
      | some m =>
          obtain ⟨packet, rt⟩ := m
          obtain ⟨htype, hverdict⟩ := verdict_of_miss hmiss
          have hip : handleIpPacket sr env buf interface = .ok (sr', out) := by
            simpa only [step, srHandlepacket, htype, if_true] using h
          obtain ⟨verdict, hverdict', hip⟩ := ok_bind_iff.mp hip
          obtain rfl := Except.ok.inj (hverdict.symm.trans hverdict')
          obtain ⟨⟨sr₁, out₁⟩, hreq, hip⟩ := ok_bind_iff.mp hip
          obtain ⟨rfl, rfl⟩ := Prod.mk.inj (Except.ok.inj hip)
          exact turns_of_miss interface hmiss hreq

end turns

/-! ### The pending request -/

section pending

variable {ifList : List SrIf} {routingTable : List SrRt} {st st' : Threads} {i : TurnInput}
  {out : List Effect} {tr : List (TurnInput × List Effect)}

/-- A request that is about to be handled is on the queue. -/
def PendingLive (st : Threads) : Prop :=
  ∀ req, st.recv = .queued req → ∃ r ∈ st.sr.cache.requests, r.id = req

/-- A timer iteration gives no pending request up. -/
def SparesPending (st : Threads) (i : TurnInput) : Prop :=
  i.turn = .timer → ∀ r ∈ st.sr.cache.requests, st.recv = .queued r.id → ¬ r.Expired i.env

/-- The cache invariant, and what the receive thread knows between its two locked sections. -/
structure ThreadInv (st : Threads) : Prop where
  /-- The cache invariant. -/
  cache : CacheInv st.sr.cache
  /-- The next hop looked up is still not in the table. -/
  missed : ∀ packet rt, st.recv = .missed packet rt →
    packet ≠ [] ∧ srArpcacheLookup st.sr.cache rt.gw = none

/-- A step of the router keeps the cache invariant. -/
theorem CacheInv.step {sr sr' : SrInstance} {i : Input} (hI : CacheInv sr.cache)
    (h : SimpleRouter.step sr i = .ok (sr', out)) : CacheInv sr'.cache :=
  Path.preserves (P := fun _ s => CacheInv s.cache) (fun _ _ _ _ hI ha => hI.action ha) hI
    (step_refines _ _ _ _ h)

/-- A timer iteration puts nothing in the table. -/
theorem lookup_timer {sr sr' : SrInstance} {env : Env} {ip : UInt32}
    (h : srArpcacheTimeout sr env = .ok (sr', out)) (hmiss : srArpcacheLookup sr.cache ip = none) :
    srArpcacheLookup sr'.cache ip = none := by
  have hpath := step_refines sr ⟨env, .timer⟩ sr' out h
  rw [lookup_eq_none_iff] at hmiss ⊢
  refine Path.preserves (P := fun _ s => ∀ e ∈ s.cache.entries, e.valid → e.ip ≠ ip) ?_ hmiss hpath
  intro _ s o s' hs ha e he hv
  rcases ha.mem_entries he hv with he | ⟨_, ⟨_, hevent, -⟩, -⟩
  · exact hs e he hv
  · cases hevent

/-- What a turn can do. -/
theorem threadStep_cases (h : threadStep st i = .ok (st', out)) :
    (i.turn = .timer ∧ ∃ sr, srArpcacheTimeout st.sr i.env = .ok (sr, out) ∧
        st' = { st with sr := sr }) ∨
      (∃ buf interface packet rt, i.turn = .receive buf interface ∧ st.recv = .idle ∧
        missOf st.sr i.env buf = some (packet, rt) ∧ out = [] ∧
        st' = ⟨st.sr, .missed packet rt⟩) ∨
      (∃ buf interface sr, i.turn = .receive buf interface ∧ st.recv = .idle ∧
        srHandlepacket st.sr i.env buf interface = .ok (sr, out) ∧ st' = ⟨sr, .idle⟩) ∨
      (∃ buf interface packet rt, i.turn = .receive buf interface ∧
        st.recv = .missed packet rt ∧
        st' = ⟨{ st.sr with
            cache := (srArpcacheQueuereq st.sr.cache rt.gw packet rt.interface).1 },
          .queued (srArpcacheQueuereq st.sr.cache rt.gw packet rt.interface).2⟩) ∨
      (∃ buf interface req sr, i.turn = .receive buf interface ∧ st.recv = .queued req ∧
        handleArpreq st.sr i.env req = .ok (sr, out) ∧ st' = ⟨sr, .idle⟩) := by
  obtain ⟨sr₀, recv⟩ := st
  obtain ⟨env, turn⟩ := i
  cases turn with
  | timer =>
      obtain ⟨⟨sr, o⟩, ht, h⟩ := ok_bind_iff.mp h
      obtain ⟨rfl, rfl⟩ := Prod.mk.inj (Except.ok.inj h)
      exact .inl ⟨rfl, sr, ht, rfl⟩
  | receive buf interface =>
      cases recv with
      | idle =>
          simp only [threadStep] at h
          cases hmiss : missOf sr₀ env buf with
          | some m =>
              simp only [hmiss] at h
              obtain ⟨rfl, rfl⟩ := Prod.mk.inj (Except.ok.inj h)
              exact .inr (.inl ⟨buf, interface, m.1, m.2, rfl, rfl, hmiss, rfl, rfl⟩)
          | none =>
              simp only [hmiss] at h
              obtain ⟨⟨sr, o⟩, hp, h⟩ := ok_bind_iff.mp h
              obtain ⟨rfl, rfl⟩ := Prod.mk.inj (Except.ok.inj h)
              exact .inr (.inr (.inl ⟨buf, interface, sr, rfl, rfl, hp, rfl⟩))
      | missed packet rt =>
          obtain ⟨rfl, rfl⟩ := Prod.mk.inj (Except.ok.inj h)
          exact .inr (.inr (.inr (.inl ⟨buf, interface, packet, rt, rfl, rfl, rfl⟩)))
      | queued req =>
          obtain ⟨⟨sr, o⟩, hr, h⟩ := ok_bind_iff.mp h
          obtain ⟨rfl, rfl⟩ := Prod.mk.inj (Except.ok.inj h)
          exact .inr (.inr (.inr (.inr ⟨buf, interface, req, sr, rfl, rfl, hr, rfl⟩)))

/-- A turn keeps the invariant. -/
theorem ThreadInv.step (hT : ThreadInv st) (h : threadStep st i = .ok (st', out)) :
    ThreadInv st' := by
  rcases threadStep_cases h with ⟨-, sr, ht, rfl⟩ | ⟨buf, _, packet, rt, -, -, hmiss, -, rfl⟩ |
    ⟨buf, interface, sr, -, -, hp, rfl⟩ | ⟨_, _, packet, rt, -, hrecv, rfl⟩ |
    ⟨_, _, req, sr, -, -, hr, rfl⟩
  · refine ⟨CacheInv.step (i := ⟨i.env, .timer⟩) hT.cache ht, fun packet rt hrecv => ?_⟩
    obtain ⟨hne, hlookup⟩ := hT.missed packet rt hrecv
    exact ⟨hne, lookup_timer ht hlookup⟩
  · refine ⟨hT.cache, ?_⟩
    rintro _ _ ⟨rfl, rfl⟩
    obtain ⟨-, hverdict⟩ := verdict_of_miss hmiss
    obtain ⟨-, -, -, hlookup, -⟩ := verdict_queue_iff.mp hverdict
    exact ⟨queued_ne_nil hverdict, hlookup⟩
  · exact ⟨CacheInv.step (i := ⟨i.env, .packet buf interface⟩) hT.cache hp, by rintro _ _ ⟨⟩⟩
  · obtain ⟨hne, hlookup⟩ := hT.missed packet rt hrecv
    exact ⟨hT.cache.queuereq hne hlookup, by rintro _ _ ⟨⟩⟩
  · exact ⟨CacheInv.step (i := ⟨i.env, .arpreq req⟩) hT.cache hr, by rintro _ _ ⟨⟩⟩

/-- It holds in every run. -/
theorem threadInv_of_run
    (h : Run threadStep ⟨srInit ifList routingTable, .idle⟩ tr st) : ThreadInv st := by
  induction h with
  | nil => exact ⟨CacheInv.init, by rintro _ _ ⟨⟩⟩
  | snoc _ hstep ih => exact ih.step hstep

/-- The request `sr_arpcache_queuereq` returns is on the queue. -/
theorem queuereq_live {cache : SrArpcache} {ip : UInt32} {packet : List UInt8} {iface : IfaceName}
    (hne : packet ≠ []) : ∃ r ∈ (srArpcacheQueuereq cache ip packet iface).1.requests,
      r.id = (srArpcacheQueuereq cache ip packet iface).2 := by
  cases hfind : Keyed.find SrArpreq.ip ip cache.requests with
  | none =>
      rw [queuereq_new hne hfind]
      exact ⟨_, List.mem_cons_self, rfl⟩
  | some req =>
      rw [queuereq_found hne hfind]
      refine ⟨req.push (cache.newPacket packet iface), ?_, rfl⟩
      exact List.mem_map.mpr ⟨req, Keyed.mem_of_find hfind, if_pos rfl⟩

/-- A turn that spares the pending request keeps it live. -/
theorem PendingLive.step (hL : PendingLive st) (hT : ThreadInv st) (hspare : SparesPending st i)
    (h : threadStep st i = .ok (st', out)) : PendingLive st' := by
  rcases threadStep_cases h with ⟨hturn, sr, ht, rfl⟩ | ⟨_, _, _, _, -, -, -, -, rfl⟩ |
    ⟨_, _, _, -, -, -, rfl⟩ | ⟨_, _, packet, rt, -, hrecv, rfl⟩ | ⟨_, _, _, _, -, -, -, rfl⟩
  · intro req hrecv
    obtain ⟨r, hr, rfl⟩ := hL req hrecv
    exact (timer_live_iff ht hT.cache hr).mpr (hspare hturn r hr hrecv)
  · rintro _ ⟨⟩
  · rintro _ ⟨⟩
  · rintro _ ⟨rfl⟩
    exact queuereq_live (hT.missed packet rt hrecv).1
  · rintro _ ⟨⟩

/-- **When the pending request is live.** In every state of a run of the two threads the request
`handle_arpreq` is about to be called on is on the queue exactly if every timer iteration of the
run spares it: finds it sent less than five times, or sent less than a second ago. -/
theorem pendingLive_iff (ifList : List SrIf) (routingTable : List SrRt)
    (tr : List (TurnInput × List Effect)) :
    (∀ pre post st, tr = pre ++ post →
        Run threadStep ⟨srInit ifList routingTable, .idle⟩ pre st → PendingLive st) ↔
      ∀ pre i out post st st', tr = pre ++ (i, out) :: post →
        Run threadStep ⟨srInit ifList routingTable, .idle⟩ pre st →
        threadStep st i = .ok (st', out) → SparesPending st i := by
  constructor
  · rintro hlive pre i out post st st' rfl hrun hstep hturn r hr hrecv
    have hL := hlive (pre ++ [(i, out)]) post st' (List.append_cons ..) (hrun.snoc hstep)
    rcases threadStep_cases hstep with ⟨-, sr, ht, rfl⟩ | ⟨_, _, _, _, hturn', -⟩ |
      ⟨_, _, _, hturn', -⟩ | ⟨_, _, _, _, hturn', -⟩ | ⟨_, _, _, _, hturn', -⟩
    · exact (timer_live_iff ht (threadInv_of_run hrun).cache hr).mp (hL r.id hrecv)
    all_goals
      rw [hturn] at hturn'
      cases hturn'
  · intro hspare pre post st htr hrun
    induction hrun generalizing post with
    | nil => rintro _ ⟨⟩
    | @snoc pre st st' i out hpre hstep ih =>
        rw [List.append_assoc, List.singleton_append] at htr
        exact (ih _ htr).step (threadInv_of_run hpre) (hspare _ _ _ _ _ _ htr hpre hstep) hstep

/-- A packet joins a request that has been sent five times, a second ago; before the receive thread
gets to `handle_arpreq`, the timer thread frees the request. -/
theorem pending_destroyed : ∃ tr st req, Run threadStep ⟨twoPort, .idle⟩ tr st ∧
    st.recv = .queued req ∧ ∀ r ∈ st.sr.cache.requests, r.id ≠ req := by
  obtain ⟨tr, st, hrun, -, htest⟩ := exists_run threadStep ⟨twoPort, .idle⟩
    (List.replicate 3 ⟨stillEnv 1, .receive (udpFrame 2 9 64) (ethName 1)⟩ ++
      [2, 3, 4, 5].map (fun now => ⟨stillEnv now, .timer⟩) ++
      List.replicate 2 ⟨stillEnv 6, .receive (udpFrame 2 9 64) (ethName 1)⟩ ++
      [⟨stillEnv 6, .timer⟩])
    (fun st _ => st.recv = .queued 0 ∧ st.sr.cache.requests = []) (by decide +kernel)
  obtain ⟨hrecv, hempty⟩ := of_decide_eq_true htest
  refine ⟨tr, st, 0, hrun, hrecv, ?_⟩
  intro r hr
  rw [hempty] at hr
  cases hr

end pending

end SimpleRouter
