import SimpleRouter.Threads

/-!
# The retry schedule of an ARP request

The operations on the request queue, one by one and in any order: `opStep` queues a packet, handles
an ARP packet, or calls `handle_arpreq`, each at clock readings of its own. `txTimes req out` are
the times at which the request at address `req` was sent, in order; a request keeps its address
from its creation to its removal and no other has it, so these are the transmissions in its
lifetime.

`ScheduleInv` ties `times_sent` and `sent` of a live request to that list: its length, and its last
element. Queueing onto a request that exists changes neither.

* `retrySchedule_of_run` — **the retry schedule**: at most five transmissions of the ARP request for
  its address, consecutive ones at least a second apart, one at the first call of `handle_arpreq`,
  and the request given up only after exactly five, a second or more after the last.
* `ready_of_run` — the first call does return: if the packets queued are not empty and for
  interfaces of the router, as those of `handle_ip_packet` are, every request has one to be sent on.
-/

namespace SimpleRouter

open Buffer Machine

/-! ### The operations -/

/-- An operation on the request queue. -/
inductive Op where
  /-- `sr_arpcache_queuereq`. -/
  | queuereq (ip : UInt32) (packet : List UInt8) (iface : IfaceName)
  /-- `handle_arp_packet`, on a frame received on an interface. -/
  | arpPacket (buf : List UInt8) (interface : IfaceName)
  /-- `handle_arpreq`, on the request at an address. -/
  | handle (req : ℕ)

/-- An operation and its environment. -/
structure OpInput where
  /-- What the operation learns from outside. -/
  env : Env
  /-- The operation. -/
  op : Op

/-- One operation. -/
def opStep (sr : SrInstance) (i : OpInput) : Except Fault (SrInstance × List Effect) :=
  match i.op with
  | .queuereq ip packet iface =>
      .ok ({ sr with cache := (srArpcacheQueuereq sr.cache ip packet iface).1 },
        if packet.length ≠ 0 then [.enqueue ip (sr.cache.newPacket packet iface)] else [])
  | .arpPacket buf interface => handleArpPacket sr i.env buf interface
  | .handle req => handleArpreq sr i.env req

/-- The operations and effects of a run so far. -/
abbrev OpHistory := List (OpInput × List Effect)

/-- The time at which an effect sends the request at address `req`. -/
def Effect.txTime? (req : ℕ) : Effect → Option ℤ
  | .send (.arpRequest req' now) _ _ => if req' = req then some now else none
  | _ => none

/-- The times at which the request at address `req` was sent. -/
def txTimes (req : ℕ) (out : List Effect) : List ℤ := out.filterMap (Effect.txTime? req)

/-- The transmissions, part by part. -/
@[simp] theorem txTimes_append (req : ℕ) (out out' : List Effect) :
    txTimes req (out ++ out') = txTimes req out ++ txTimes req out' := List.filterMap_append ..

/-- A transmission counts for its own request. -/
theorem txTimes_send (id req : ℕ) (now : ℤ) (p : List UInt8) (name : IfaceName) :
    txTimes id [.send (.arpRequest req now) p name] = if req = id then [now] else [] := by
  by_cases h : req = id <;> simp [txTimes, Effect.txTime?, h]

/-- The effects hold no ARP request. -/
def Quiet (out : List Effect) : Prop := ∀ id, txTimes id out = []

/-- The effects hold a host unreachable only for packets of requests that `P` holds of. -/
def UnreachableOnly (P : SrArpreq → Prop) (out : List Effect) : Prop :=
  ∀ req pkt p name, .send (.hostUnreachable req pkt) p name ∈ out → P req

/-- **What an operation can do**, with its effects and the instance after it. -/
inductive OpAction (i : OpInput) (sr : SrInstance) : List Effect → SrInstance → Prop
  /-- Queue a packet. -/
  | queue {ip : UInt32} {packet : List UInt8} {iface : IfaceName} {out : List Effect}
      (hop : i.op = .queuereq ip packet iface) (hquiet : Quiet out)
      (hnone : UnreachableOnly (fun _ => False) out) :
      OpAction i sr out { sr with cache := (srArpcacheQueuereq sr.cache ip packet iface).1 }
  /-- Handle an ARP packet: requests may leave the queue. -/
  | arp {buf : List UInt8} {interface : IfaceName} {cache : SrArpcache} {out : List Effect}
      (hop : i.op = .arpPacket buf interface) (hsub : cache.requests.Sublist sr.cache.requests)
      (hseq : cache.reqSeq = sr.cache.reqSeq) (hquiet : Quiet out)
      (hnone : UnreachableOnly (fun _ => False) out) :
      OpAction i sr out { sr with cache := cache }
  /-- Call `handle_arpreq` on a request that is not due. -/
  | idle {req : SrArpreq} (hop : i.op = .handle req.id)
      (hfind : Keyed.find SrArpreq.id req.id sr.cache.requests = some req)
      (hdue : ¬ i.env.clock req.id - req.sent ≥ 1) : OpAction i sr [] sr
  /-- Give a request up. -/
  | giveUp {req : SrArpreq} {out : List Effect} (hop : i.op = .handle req.id)
      (hfind : Keyed.find SrArpreq.id req.id sr.cache.requests = some req)
      (hexp : req.Expired i.env) (hquiet : Quiet out) (honly : UnreachableOnly (· = req) out) :
      OpAction i sr out { sr with cache := srArpreqDestroy sr.cache req.id }
  /-- Send a request. -/
  | transmit {req : SrArpreq} {pkt : SrPacket} {iface : SrIf} (hop : i.op = .handle req.id)
      (hfind : Keyed.find SrArpreq.id req.id sr.cache.requests = some req)
      (hdue : i.env.clock req.id - req.sent ≥ 1) (htimes : req.timesSent < 5)
      (hhead : req.packets.head? = some pkt)
      (hiface : srGetInterface sr pkt.iface = some iface) :
      OpAction i sr [.send (.arpRequest req.id (i.env.clock req.id)) (createArpRequest iface req.ip)
          pkt.iface]
        { sr with cache := resendCache sr.cache req.id (i.env.clock req.id) }

section operations

variable {sr sr' : SrInstance} {i : OpInput} {out : List Effect}

/-- A flush transmits no request, and gives up none. -/
theorem FlushOut.quiet {interface : IfaceName} {sha : EtherAddr} {req : SrArpreq}
    (h : FlushOut sr interface sha req out) :
    Quiet out ∧ UnreachableOnly (fun _ => False) out := by
  constructor
  · intro id
    refine filterMap_rounds_none h ?_
    rintro pkt e ⟨iface, -, rfl⟩
    rfl
  · intro req' pkt' p name he
    obtain ⟨pkt, -, iface, -, heq⟩ := exists_round h he
    cases heq

/-- Giving up transmits no request, and gives up just the one. -/
theorem GiveUpOut.quiet {env : Env} {req : SrArpreq} (h : GiveUpOut sr env req out) :
    Quiet out ∧ UnreachableOnly (· = req) out := by
  constructor
  · intro id
    refine filterMap_rounds_none h ?_
    rintro pkt e ⟨iface, -, rfl⟩
    rfl
  · intro req' pkt' p name he
    obtain ⟨pkt, -, iface, -, heq⟩ := exists_round h he
    obtain ⟨hcaller, -, -⟩ := Effect.send.inj heq
    exact (Caller.hostUnreachable.inj hcaller).1

/-- Nothing gives up nothing. -/
theorem unreachableOnly_nil : UnreachableOnly (fun _ => False) [] := by
  rintro _ _ _ _ ⟨⟩

/-- Handling an ARP packet. -/
theorem opAction_arp {buf : List UInt8} {interface : IfaceName}
    (hop : i.op = .arpPacket buf interface)
    (h : handleArpPacket sr i.env buf interface = .ok (sr', out)) : OpAction i sr out sr' := by
  by_cases hreply : arOp buf i.env.after = 2
  · rcases handleArpPacket_reply hreply h with ⟨-, rfl, rfl⟩ | ⟨req, -, hout, rfl⟩
    · exact .arp hop Keyed.erase_sublist rfl (fun _ => rfl) unreachableOnly_nil
    · exact .arp hop (Keyed.erase_sublist.trans Keyed.erase_sublist) rfl hout.quiet.1 hout.quiet.2
  · rcases handleArpPacket_request hreply h with ⟨rfl, rfl | ⟨iface, -, -, rfl⟩⟩
    · exact .arp hop (List.Sublist.refl _) rfl (fun _ => rfl) unreachableOnly_nil
    · refine .arp hop (List.Sublist.refl _) rfl (fun _ => rfl) ?_
      intro req pkt p name he
      cases List.mem_singleton.mp he

/-- Every operation is an action. -/
theorem opAction_of_opStep (h : opStep sr i = .ok (sr', out)) : OpAction i sr out sr' := by
  unfold opStep at h
  split at h
  · rename_i ip packet iface hop
    obtain ⟨rfl, rfl⟩ := Prod.mk.inj (Except.ok.inj h)
    by_cases hlen : packet.length ≠ 0
    · rw [if_pos hlen]
      refine .queue hop (fun _ => rfl) ?_
      intro req pkt p name he
      cases List.mem_singleton.mp he
    · rw [if_neg hlen]
      exact .queue hop (fun _ => rfl) unreachableOnly_nil
  · rename_i buf interface hop
    exact opAction_arp hop h
  · rename_i id hop
    obtain ⟨req, hfind, hcases⟩ := handleArpreq_cases h
    obtain rfl := Keyed.key_of_find hfind
    rcases hcases with ⟨hdue, rfl, rfl⟩ | ⟨hdue, htimes, hout, rfl⟩ |
      ⟨hdue, htimes, pkt, iface, hhead, hiface, rfl, rfl⟩
    · exact .idle hop hfind hdue
    · exact .giveUp hop hfind ⟨htimes, hdue⟩ hout.quiet.1 hout.quiet.2
    · exact .transmit hop hfind hdue htimes hhead hiface

/-- Only `handle_arpreq` sends ARP requests, for the request it is called on. -/
theorem OpAction.txTimes_eq {id : ℕ} (h : OpAction i sr out sr') (hop : i.op ≠ .handle id) :
    txTimes id out = [] := by
  cases h with
  | queue _ hquiet | arp _ _ _ hquiet | giveUp _ _ _ hquiet => exact hquiet id
  | idle => rfl
  | transmit hreq =>
      rw [txTimes_send, if_neg]
      rintro rfl
      exact hop hreq

/-- Host unreachable is sent for the packets of a request that is given up. -/
theorem OpAction.expired {req : SrArpreq} {pkt : SrPacket} {p : List UInt8} {name : IfaceName}
    (h : OpAction i sr out sr') (hsend : .send (.hostUnreachable req pkt) p name ∈ out) :
    req ∈ sr.cache.requests ∧ req.Expired i.env := by
  cases h with
  | queue _ _ hnone | arp _ _ _ _ hnone => exact (hnone _ _ _ _ hsend).elim
  | idle => cases hsend
  | giveUp _ hfind hexp _ honly =>
      obtain rfl := honly _ _ _ _ hsend
      exact ⟨Keyed.mem_of_find hfind, hexp⟩
  | transmit => cases List.mem_singleton.mp hsend

/-- An ARP request sent is the one for the address of its request, which is on the queue and due, on
the interface of a packet that waits. -/
theorem OpAction.request {id : ℕ} {now : ℤ} {p : List UInt8} {name : IfaceName}
    (h : OpAction i sr out sr') (hsend : .send (.arpRequest id now) p name ∈ out) :
    i.op = .handle id ∧ now = i.env.clock id ∧
      ∃ r ∈ sr.cache.requests, r.id = id ∧ ∃ pkt ∈ r.packets, pkt.iface = name ∧
        ∃ iface, srGetInterface sr name = some iface ∧ p = createArpRequest iface r.ip := by
  have hquiet (hq : Quiet out) : False := by
    have hmem : now ∈ txTimes id out :=
      List.mem_filterMap.mpr ⟨_, hsend, if_pos rfl⟩
    rw [hq id] at hmem
    cases hmem
  cases h with
  | queue _ hq | arp _ _ _ hq | giveUp _ _ _ hq => exact (hquiet hq).elim
  | idle => cases hsend
  | transmit hop hfind _ _ hhead hiface =>
      cases List.mem_singleton.mp hsend
      exact ⟨hop, rfl, _, Keyed.mem_of_find hfind, rfl, _, List.mem_of_mem_head? hhead, rfl, _,
        hiface, rfl⟩

/-- Queueing resets no counter: what is on the queue afterwards was there with the same counter and
timestamp, or is the new request, never sent. -/
theorem mem_queuereq_schedule {cache : SrArpcache} {ip : UInt32} {packet : List UInt8}
    {iface : IfaceName} {r : SrArpreq}
    (h : r ∈ (srArpcacheQueuereq cache ip packet iface).1.requests) :
    (∃ r₀ ∈ cache.requests, r.id = r₀.id ∧ r.timesSent = r₀.timesSent ∧ r.sent = r₀.sent) ∨
      (r.id = cache.reqSeq ∧ r.timesSent = 0 ∧ r.sent = 0) := by
  cases hfind : Keyed.find SrArpreq.ip ip cache.requests with
  | none =>
      rw [queuereq_none hfind] at h
      rcases List.mem_cons.mp h with rfl | h
      · obtain ⟨hid, -, hsent, htimes⟩ :=
          addPacket_fields (cache.newPacket packet iface) ⟨cache.reqSeq, ip, 0, 0, []⟩
        exact .inr ⟨hid, htimes, hsent⟩
      · exact .inl ⟨r, h, rfl, rfl, rfl⟩
  | some req =>
      rw [queuereq_some hfind] at h
      obtain ⟨r₀, hr₀, rfl⟩ := List.mem_map.mp h
      refine .inl ⟨r₀, hr₀, ?_⟩
      split_ifs
      · obtain ⟨hid, -, hsent, htimes⟩ := addPacket_fields (cache.newPacket packet iface) r₀
        exact ⟨hid, htimes, hsent⟩
      · exact ⟨rfl, rfl, rfl⟩

/-- Queueing keeps the addresses of requests distinct and below the next one. -/
theorem queuereq_ids {cache : SrArpcache} {ip : UInt32} {packet : List UInt8} {iface : IfaceName}
    (hnd : (cache.requests.map SrArpreq.id).Nodup)
    (hlt : ∀ r ∈ cache.requests, r.id < cache.reqSeq) :
    ((srArpcacheQueuereq cache ip packet iface).1.requests.map SrArpreq.id).Nodup ∧
      cache.reqSeq ≤ (srArpcacheQueuereq cache ip packet iface).1.reqSeq ∧
      ∀ r ∈ (srArpcacheQueuereq cache ip packet iface).1.requests,
        r.id < (srArpcacheQueuereq cache ip packet iface).1.reqSeq := by
  cases hfind : Keyed.find SrArpreq.ip ip cache.requests with
  | none =>
      rw [queuereq_none hfind]
      have hid := (addPacket_fields (cache.newPacket packet iface) ⟨cache.reqSeq, ip, 0, 0, []⟩).1
      refine ⟨List.nodup_cons.mpr ⟨?_, hnd⟩, Nat.le_succ _, List.forall_mem_cons.mpr ⟨?_, ?_⟩⟩
      · rw [hid]
        intro hmem
        obtain ⟨r, hr, heq⟩ := List.mem_map.mp hmem
        exact (hlt r hr).ne heq
      · rw [hid]
        exact Nat.lt_succ_self _
      · intro r hr
        exact (hlt r hr).trans (Nat.lt_succ_self _)
  | some req =>
      rw [queuereq_some hfind]
      have hids : (Keyed.modify SrArpreq.id req.id
          (SrArpreq.addPacket (cache.newPacket packet iface)) cache.requests).map SrArpreq.id =
          cache.requests.map SrArpreq.id := Keyed.map_modify fun r => (addPacket_fields _ r).1
      refine ⟨hids.symm ▸ hnd, le_rfl, ?_⟩
      intro r hr
      obtain ⟨r₀, hr₀, heq⟩ := List.mem_map.mp (hids ▸ List.mem_map_of_mem (f := SrArpreq.id) hr)
      exact heq ▸ hlt r₀ hr₀

end operations

/-! ### The invariant -/

/-- Counters and timestamps of the requests agree with what was sent. -/
structure ScheduleInv (tr : OpHistory) (sr : SrInstance) : Prop where
  /-- No two requests are at the same address. -/
  id_nodup : (sr.cache.requests.map SrArpreq.id).Nodup
  /-- The next request is at a new address. -/
  id_lt : ∀ r ∈ sr.cache.requests, r.id < sr.cache.reqSeq
  /-- `times_sent` counts the transmissions. -/
  times_eq : ∀ r ∈ sr.cache.requests, r.timesSent = (txTimes r.id (outputs tr)).length
  /-- `sent` is the time of the last one, and `0` before the first. -/
  sent_eq : ∀ r ∈ sr.cache.requests, r.sent = (txTimes r.id (outputs tr)).getLastD 0
  /-- A request not yet made has not been sent. -/
  fresh : ∀ id, sr.cache.reqSeq ≤ id → txTimes id (outputs tr) = []
  /-- No request is sent more than five times. -/
  five : ∀ id, (txTimes id (outputs tr)).length ≤ 5
  /-- Transmissions are a second apart. -/
  spaced : ∀ id, (txTimes id (outputs tr)).IsChain fun a b => b - a ≥ 1

section invariant

variable {ifList : List SrIf} {routingTable : List SrRt} {tr : OpHistory} {i : OpInput}
  {out o : List Effect} {sr sr' : SrInstance}

/-- The transmissions of a run whose last step does more. -/
theorem txTimes_outputs (id : ℕ) : txTimes id (outputs (tr ++ [(i, out ++ o)])) =
    txTimes id (outputs (tr ++ [(i, out)])) ++ txTimes id o := by
  simp

/-- An operation that sends no request: what it leaves on the queue agrees with what was there. -/
theorem ScheduleInv.quiet (hS : ScheduleInv (tr ++ [(i, out)]) sr) (htx : Quiet o)
    (hnd : (sr'.cache.requests.map SrArpreq.id).Nodup)
    (hlt : ∀ r ∈ sr'.cache.requests, r.id < sr'.cache.reqSeq)
    (hseq : sr.cache.reqSeq ≤ sr'.cache.reqSeq)
    (hmem : ∀ r ∈ sr'.cache.requests,
      (∃ r₀ ∈ sr.cache.requests, r.id = r₀.id ∧ r.timesSent = r₀.timesSent ∧ r.sent = r₀.sent) ∨
        (r.id = sr.cache.reqSeq ∧ r.timesSent = 0 ∧ r.sent = 0)) :
    ScheduleInv (tr ++ [(i, out ++ o)]) sr' := by
  have hsame (id : ℕ) : txTimes id (outputs (tr ++ [(i, out ++ o)])) =
      txTimes id (outputs (tr ++ [(i, out)])) := by
    rw [txTimes_outputs, htx, List.append_nil]
  refine ⟨hnd, hlt, ?_, ?_, ?_, ?_, ?_⟩
  · intro r hr
    rw [hsame]
    rcases hmem r hr with ⟨r₀, hr₀, hid, htimes, -⟩ | ⟨hid, htimes, -⟩
    · rw [hid, htimes]
      exact hS.times_eq r₀ hr₀
    · rw [hS.fresh r.id hid.ge, htimes]
      rfl
  · intro r hr
    rw [hsame]
    rcases hmem r hr with ⟨r₀, hr₀, hid, -, hsent⟩ | ⟨hid, -, hsent⟩
    · rw [hid, hsent]
      exact hS.sent_eq r₀ hr₀
    · rw [hS.fresh r.id hid.ge, hsent]
      rfl
  · intro id hid
    rw [hsame]
    exact hS.fresh id (hseq.trans hid)
  · intro id
    rw [hsame]
    exact hS.five id
  · intro id
    rw [hsame]
    exact hS.spaced id

/-- Sending a request that is due and has been sent less than five times. -/
theorem ScheduleInv.transmit {r : SrArpreq} {now : ℤ} {p : List UInt8} {name : IfaceName}
    (hS : ScheduleInv (tr ++ [(i, out)]) sr) (hr : r ∈ sr.cache.requests)
    (hdue : now - r.sent ≥ 1) (htimes : r.timesSent < 5) :
    ScheduleInv (tr ++ [(i, out ++ [.send (.arpRequest r.id now) p name])])
      { sr with cache := resendCache sr.cache r.id now } := by
  have hother {id : ℕ} (hid : id ≠ r.id) :
      txTimes id (outputs (tr ++ [(i, out ++ [.send (.arpRequest r.id now) p name])])) =
        txTimes id (outputs (tr ++ [(i, out)])) := by
    rw [txTimes_outputs, txTimes_send, if_neg hid.symm, List.append_nil]
  have hself : txTimes r.id (outputs (tr ++ [(i, out ++ [.send (.arpRequest r.id now) p name])])) =
      txTimes r.id (outputs (tr ++ [(i, out)])) ++ [now] := by
    rw [txTimes_outputs, txTimes_send, if_pos rfl]
  have hids : (resendCache sr.cache r.id now).requests.map SrArpreq.id =
      sr.cache.requests.map SrArpreq.id := Keyed.map_modify fun _ => rfl
  have hlen := hS.times_eq r hr
  refine ⟨hids.symm ▸ hS.id_nodup, ?_, ?_, ?_, ?_, ?_, ?_⟩
  · intro r' hr'
    rcases mem_resendCache hS.id_nodup hr hr' with rfl | ⟨hr', -⟩
    · exact hS.id_lt r hr
    · exact hS.id_lt r' hr'
  · intro r' hr'
    rcases mem_resendCache hS.id_nodup hr hr' with rfl | ⟨hr', hid⟩
    · rw [show (r.resend now).id = r.id from rfl, hself, List.length_append, ← hlen]
      rfl
    · rw [hother hid]
      exact hS.times_eq r' hr'
  · intro r' hr'
    rcases mem_resendCache hS.id_nodup hr hr' with rfl | ⟨hr', hid⟩
    · rw [show (r.resend now).id = r.id from rfl, hself, List.getLastD_concat]
      rfl
    · rw [hother hid]
      exact hS.sent_eq r' hr'
  · intro id hid
    rw [hother ((hS.id_lt r hr).trans_le hid).ne']
    exact hS.fresh id hid
  · intro id
    by_cases hid : id = r.id
    · rw [hid, hself, List.length_append, ← hlen]
      exact htimes
    · rw [hother hid]
      exact hS.five id
  · intro id
    by_cases hid : id = r.id
    · rw [hid, hself]
      refine (hS.spaced r.id).append (List.isChain_singleton _) ?_
      intro x hx y hy
      obtain rfl := Option.some.inj hy
      have hlast : r.sent = x := by
        rw [hS.sent_eq r hr, List.getLastD_eq_getLast?, hx]
        rfl
      exact hlast ▸ hdue
    · rw [hother hid]
      exact hS.spaced id

/-- Every operation keeps the invariant. -/
theorem ScheduleInv.action (hS : ScheduleInv (tr ++ [(i, out)]) sr) (h : OpAction i sr o sr') :
    ScheduleInv (tr ++ [(i, out ++ o)]) sr' := by
  cases h with
  | queue _ hquiet _ =>
      obtain ⟨hnd, hseq, hlt⟩ := queuereq_ids hS.id_nodup hS.id_lt
      exact hS.quiet hquiet hnd hlt hseq fun r hr => mem_queuereq_schedule hr
  | arp _ hsub hseq hquiet _ =>
      refine hS.quiet hquiet (hS.id_nodup.sublist (hsub.map _)) ?_ hseq.ge ?_
      · intro r hr
        rw [hseq]
        exact hS.id_lt r (hsub.subset hr)
      · intro r hr
        exact .inl ⟨r, hsub.subset hr, rfl, rfl, rfl⟩
  | idle =>
      exact hS.quiet (fun _ => rfl) hS.id_nodup hS.id_lt le_rfl
        fun r hr => .inl ⟨r, hr, rfl, rfl, rfl⟩
  | giveUp _ _ _ hquiet _ =>
      refine hS.quiet hquiet (Keyed.map_erase_nodup hS.id_nodup) ?_ le_rfl ?_
      · intro r hr
        exact hS.id_lt r (Keyed.mem_of_mem_erase hr)
      · intro r hr
        exact .inl ⟨r, Keyed.mem_of_mem_erase hr, rfl, rfl, rfl⟩
  | transmit _ hfind hdue htimes _ _ => exact hS.transmit (Keyed.mem_of_find hfind) hdue htimes

/-- It holds in the beginning, and is kept. -/
theorem scheduleInv_inductive : Inductive OpAction (srInit ifList routingTable) ScheduleInv where
  init := by
    refine ⟨List.nodup_nil, ?_, ?_, ?_, fun _ _ => rfl, fun _ => Nat.zero_le _,
      fun _ => List.isChain_nil⟩
    all_goals
      intro r hr
      cases hr
  input := fun tr sr i hS => by
    have hsame : outputs (tr ++ [(i, [])]) = outputs tr := by simp
    exact ⟨hS.id_nodup, hS.id_lt, hsame ▸ hS.times_eq, hsame ▸ hS.sent_eq, hsame ▸ hS.fresh,
      hsame ▸ hS.five, hsame ▸ hS.spaced⟩
  action := fun _ _ _ _ _ _ hS h => hS.action h

/-- It holds in every run. -/
theorem scheduleInv_of_run (h : Run opStep (srInit ifList routingTable) tr sr) :
    ScheduleInv tr sr :=
  scheduleInv_inductive.run (fun _ _ _ _ h => Path.single (opAction_of_opStep h)) h

/-- A request that is due to be given up has been sent five times, the last a second ago. -/
theorem ScheduleInv.five_of_expired {env : Env} {r : SrArpreq} (hS : ScheduleInv tr sr)
    (hr : r ∈ sr.cache.requests) (hexp : r.Expired env) :
    (txTimes r.id (outputs tr)).length = 5 ∧
      ∃ last, (txTimes r.id (outputs tr)).getLast? = some last ∧ env.clock r.id - last ≥ 1 := by
  obtain ⟨htimes, hdue⟩ := hexp
  have hlen : (txTimes r.id (outputs tr)).length = 5 := by
    have hle := hS.five r.id
    have heq := hS.times_eq r hr
    omega
  have hne : txTimes r.id (outputs tr) ≠ [] := by
    intro hnil
    rw [hnil] at hlen
    cases hlen
  refine ⟨hlen, _, List.getLast?_eq_some_getLast hne, ?_⟩
  rw [hS.sent_eq r hr, List.getLastD_eq_getLast?, List.getLast?_eq_some_getLast hne] at hdue
  exact hdue

/-- A request that is not handled is not transmitted. -/
theorem txTimes_eq_nil {id : ℕ} (h : Run opStep (srInit ifList routingTable) tr sr)
    (hop : ∀ x ∈ tr, x.1.op ≠ .handle id) : txTimes id (outputs tr) = [] := by
  induction h with
  | nil => rfl
  | snoc _ hstep ih =>
      have hlast := hop _ (List.mem_append_right _ (List.mem_singleton_self _))
      rw [outputs_snoc, txTimes_append, ih fun x hx => hop x (List.mem_append_left _ hx),
        (opAction_of_opStep hstep).txTimes_eq hlast]
      rfl

/-- A request `handle_arpreq` was never called on has not been sent. -/
theorem unsent_of_run {r : SrArpreq} (h : Run opStep (srInit ifList routingTable) tr sr)
    (hr : r ∈ sr.cache.requests) (hop : ∀ x ∈ tr, x.1.op ≠ .handle r.id) :
    r.sent = 0 ∧ r.timesSent = 0 := by
  have hS := scheduleInv_of_run h
  have hnil := txTimes_eq_nil h hop
  rw [hS.sent_eq r hr, hS.times_eq r hr, hnil]
  exact ⟨rfl, rfl⟩

end invariant

/-! ### The first call completes -/

section ready

variable {ifList : List SrIf} {routingTable : List SrRt} {tr : OpHistory} {sr sr' : SrInstance}
  {i : OpInput} {out : List Effect}

/-- The first packet of a request is for an interface of the router, so `handle_arpreq` can send
the request on it. -/
def SrArpreq.Ready (sr : SrInstance) (r : SrArpreq) : Prop :=
  ∃ pkt iface, r.packets.head? = some pkt ∧ srGetInterface sr pkt.iface = some iface

/-- What `handle_ip_packet` queues: a packet that is not empty, for an interface of the router. -/
def OpInput.Routable (sr₀ : SrInstance) (i : OpInput) : Prop :=
  ∀ ip packet iface, i.op = .queuereq ip packet iface →
    packet ≠ [] ∧ (srGetInterface sr₀ iface).isSome

/-- An action keeps the interfaces. -/
theorem OpAction.ifList_eq (h : OpAction i sr out sr') : sr'.ifList = sr.ifList := by
  cases h <;> rfl

/-- A request has the packets it had, or a packet that was just queued in front. -/
theorem OpAction.packets {r : SrArpreq} (h : OpAction i sr out sr')
    (hi : ∀ ip packet iface, i.op = .queuereq ip packet iface → packet ≠ [])
    (hr : r ∈ sr'.cache.requests) :
    (∃ r₀ ∈ sr.cache.requests, r.packets = r₀.packets) ∨
      ∃ ip packet iface, i.op = .queuereq ip packet iface ∧
        r.packets.head? = some (sr.cache.newPacket packet iface) := by
  cases h with
  | @queue ip packet iface _ hop =>
      have hp := hi ip packet iface hop
      cases hfind : Keyed.find SrArpreq.ip ip sr.cache.requests with
      | none =>
          rw [queuereq_new hp hfind] at hr
          rcases List.mem_cons.mp hr with rfl | hr
          · exact .inr ⟨ip, packet, iface, hop, rfl⟩
          · exact .inl ⟨r, hr, rfl⟩
      | some req =>
          rw [queuereq_found hp hfind] at hr
          obtain ⟨r₀, hr₀, rfl⟩ := List.mem_map.mp hr
          split_ifs
          · exact .inr ⟨ip, packet, iface, hop, rfl⟩
          · exact .inl ⟨r₀, hr₀, rfl⟩
  | arp _ hsub => exact .inl ⟨r, hsub.subset hr, rfl⟩
  | idle => exact .inl ⟨r, hr, rfl⟩
  | giveUp => exact .inl ⟨r, Keyed.mem_of_mem_erase hr, rfl⟩
  | transmit =>
      obtain ⟨r₀, hr₀, rfl⟩ := List.mem_map.mp hr
      refine .inl ⟨r₀, hr₀, ?_⟩
      split_ifs <;> rfl

/-- The operations leave the interfaces alone. -/
theorem ifList_of_opRun (h : Run opStep (srInit ifList routingTable) tr sr) :
    sr.ifList = ifList := by
  induction h with
  | nil => rfl
  | snoc _ hstep ih => exact (opAction_of_opStep hstep).ifList_eq.trans ih

/-- In a run that queues what `handle_ip_packet` queues, every request can be sent. -/
theorem ready_of_run (h : Run opStep (srInit ifList routingTable) tr sr)
    (hi : ∀ x ∈ tr, x.1.Routable (srInit ifList routingTable)) :
    ∀ r ∈ sr.cache.requests, r.Ready (srInit ifList routingTable) := by
  induction h with
  | nil => rintro _ ⟨⟩
  | snoc _ hstep ih =>
      have hready := ih fun x hx => hi x (List.mem_append_left _ hx)
      have hroutable := hi _ (List.mem_append_right _ (List.mem_singleton_self _))
      intro r hr
      rcases (opAction_of_opStep hstep).packets
        (fun ip packet iface hop => (hroutable ip packet iface hop).1) hr
        with ⟨r₀, hr₀, heq⟩ | ⟨ip, packet, iface, hop, hhead⟩
      · unfold SrArpreq.Ready
        rw [heq]
        exact hready r₀ hr₀
      · obtain ⟨intf, hintf⟩ := Option.isSome_iff_exists.mp (hroutable ip packet iface hop).2
        exact ⟨_, intf, hhead, hintf⟩

/-- `handle_arpreq` sends a request that is due, ready, and has been sent less than five times. -/
theorem handleArpreq_sends {env : Env} {r : SrArpreq}
    (hfind : Keyed.find SrArpreq.id r.id sr.cache.requests = some r)
    (hdue : env.clock r.id - r.sent ≥ 1) (htimes : r.timesSent < 5) (hready : r.Ready sr) :
    ∃ sr' p name, handleArpreq sr env r.id =
      .ok (sr', [.send (.arpRequest r.id (env.clock r.id)) p name]) := by
  obtain ⟨pkt, iface, hhead, hiface⟩ := hready
  refine ⟨{ sr with cache := resendCache sr.cache r.id (env.clock r.id) },
    createArpRequest iface r.ip, pkt.iface, ?_⟩
  unfold handleArpreq
  simp only [hfind]
  rw [if_pos hdue, if_neg htimes.not_ge]
  refine ok_bind_iff.mpr ⟨pkt, deref_ok_iff.mpr hhead, ?_⟩
  exact ok_bind_iff.mpr ⟨iface, deref_ok_iff.mpr hiface, rfl⟩

end ready

/-! ### The schedule -/

/-- The request at address `id` is given up in a step: `handle_arpreq` takes it off the queue, or
host unreachable is sent for one of its packets. -/
def GivesUp (sr sr' : SrInstance) (i : OpInput) (out : List Effect) (id : ℕ) : Prop :=
  (i.op = .handle id ∧ (∃ r ∈ sr.cache.requests, r.id = id) ∧
      ∀ r ∈ sr'.cache.requests, r.id ≠ id) ∨
    ∃ req pkt p name, .send (.hostUnreachable req pkt) p name ∈ out ∧ req.id = id

/-- **The retry schedule** of the request at address `id` in a run from `sr₀`. -/
structure RetrySchedule (sr₀ : SrInstance) (tr : OpHistory) (id : ℕ) : Prop where
  /-- At most five transmissions. -/
  atMostFive : (txTimes id (outputs tr)).length ≤ 5
  /-- A second or more between two. -/
  spaced : (txTimes id (outputs tr)).IsChain fun a b => b - a ≥ 1
  /-- Each is a call of `handle_arpreq` on the request, which is on the queue then, and sends the
  ARP request for its address, on the interface a packet of it waits for. -/
  frame : ∀ pre i out post sr sr', tr = pre ++ (i, out) :: post → Run opStep sr₀ pre sr →
    opStep sr i = .ok (sr', out) → ∀ now p name, .send (.arpRequest id now) p name ∈ out →
    i.op = .handle id ∧ now = i.env.clock id ∧
      ∃ r ∈ sr.cache.requests, r.id = id ∧ ∃ pkt ∈ r.packets, pkt.iface = name ∧
        ∃ iface, srGetInterface sr₀ name = some iface ∧ p = createArpRequest iface r.ip
  /-- The first call of `handle_arpreq` sends the request, once. -/
  first : ∀ pre i out post, tr = pre ++ (i, out) :: post → i.op = .handle id →
    (∀ x ∈ pre, x.1.op ≠ .handle id) → txTimes id out = [i.env.clock id]
  /-- The first call on a request on the queue does return, if what was queued could be sent. -/
  completes : ∀ pre post sr env, tr = pre ++ post → Run opStep sr₀ pre sr →
    (∀ x ∈ pre, x.1.Routable sr₀) → (∃ r ∈ sr.cache.requests, r.id = id) →
    (∀ x ∈ pre, x.1.op ≠ .handle id) → 1 ≤ env.clock id →
    ∃ sr' out, opStep sr ⟨env, .handle id⟩ = .ok (sr', out) ∧ txTimes id out = [env.clock id]
  /-- It is given up after five transmissions, a second or more after the last. -/
  givesUp : ∀ pre i out post sr sr', tr = pre ++ (i, out) :: post → Run opStep sr₀ pre sr →
    opStep sr i = .ok (sr', out) → GivesUp sr sr' i out id →
    (txTimes id (outputs pre)).length = 5 ∧
      ∃ last, (txTimes id (outputs pre)).getLast? = some last ∧ i.env.clock id - last ≥ 1

/-- **Every request follows the retry schedule**, in every run at clock readings of at least
one. -/
theorem retrySchedule_of_run {ifList : List SrIf} {routingTable : List SrRt} {tr : OpHistory}
    {sr : SrInstance} (h : Run opStep (srInit ifList routingTable) tr sr)
    (hclock : ∀ x ∈ tr, ∀ req, 1 ≤ x.1.env.clock req) (id : ℕ) :
    RetrySchedule (srInit ifList routingTable) tr id := by
  have hS := scheduleInv_of_run h
  constructor
  case atMostFive => exact hS.five id
  case spaced => exact hS.spaced id
  case frame =>
    rintro pre i out post s s' rfl hrun hstep now p name hsend
    obtain ⟨hop, hnow, r, hr, hid, pkt, hpkt, hname, iface, hiface, hp⟩ :=
      (opAction_of_opStep hstep).request hsend
    refine ⟨hop, hnow, r, hr, hid, pkt, hpkt, hname, iface, ?_, hp⟩
    unfold srGetInterface at hiface ⊢
    rw [ifList_of_opRun hrun] at hiface
    exact hiface
  case first =>
    rintro pre i out post rfl hop hpre
    obtain ⟨s, s', hrun, hstep, -⟩ := h.split_step
    have hnow : 1 ≤ i.env.clock id :=
      hclock (i, out) (List.mem_append_right _ List.mem_cons_self) id
    unfold opStep at hstep
    rw [hop] at hstep
    obtain ⟨node, hfind, hcases⟩ := handleArpreq_cases hstep
    obtain rfl := Keyed.key_of_find hfind
    obtain ⟨hsent, htimes⟩ := unsent_of_run hrun (Keyed.mem_of_find hfind) hpre
    rcases hcases with ⟨hdue, -⟩ | ⟨-, hfive, -⟩ | ⟨-, -, _, _, -, -, rfl, -⟩
    · omega
    · omega
    · rw [txTimes_send, if_pos rfl]
  case completes =>
    rintro pre post s env rfl hrun hroutable ⟨r, hr, rfl⟩ hpre hnow
    obtain ⟨hsent, htimes⟩ := unsent_of_run hrun hr hpre
    have hdue : env.clock r.id - r.sent ≥ 1 := by omega
    have hready' : r.Ready s := by
      obtain ⟨pkt, iface, hhead, hiface⟩ := ready_of_run hrun hroutable r hr
      refine ⟨pkt, iface, hhead, ?_⟩
      unfold srGetInterface
      rw [ifList_of_opRun hrun]
      exact hiface
    obtain ⟨s', p, name, hcall⟩ := handleArpreq_sends
      ((Keyed.find_eq_some_iff (scheduleInv_of_run hrun).id_nodup).mpr ⟨hr, rfl⟩)
      hdue (by omega) hready'
    refine ⟨s', _, hcall, ?_⟩
    rw [txTimes_send, if_pos rfl]
  case givesUp =>
    rintro pre i out post s s' rfl hrun hstep hgive
    have hS := scheduleInv_of_run hrun
    rcases hgive with ⟨hop, ⟨r, hr, rfl⟩, hgone⟩ | ⟨req, pkt, p, name, hsend, rfl⟩
    · refine hS.five_of_expired hr (not_not.mp fun hexp => ?_)
      unfold opStep at hstep
      rw [hop] at hstep
      obtain ⟨r', hr', hid⟩ := (handleArpreq_live_iff hstep hS.id_nodup hr).mpr hexp
      exact hgone r' hr' hid
    · obtain ⟨hreq, hexp⟩ := (opAction_of_opStep hstep).expired hsend
      exact hS.five_of_expired hreq hexp

/-- A packet is queued at time 1, and `handle_arpreq` called every second: five requests, then the
packet is given up. -/
theorem retrySchedule_twoPort : ∃ tr sr, Run opStep twoPort tr sr ∧
    txTimes 0 (outputs tr) = [1, 2, 3, 4, 5] ∧ sr.cache.requests = [] ∧
    RetrySchedule twoPort tr 0 := by
  obtain ⟨tr, sr, hrun, hinputs, htest⟩ := exists_run opStep twoPort
    (⟨stillEnv 1, .queuereq (netAddr 2 2) (transitCopy (udpFrame 2 9 64)) (ethName 2)⟩ ::
      [1, 2, 3, 4, 5, 6].map fun now => ⟨stillEnv now, .handle 0⟩)
    (fun sr tr => txTimes 0 (outputs tr) = [1, 2, 3, 4, 5] ∧ sr.cache.requests = [])
    (by decide +kernel)
  obtain ⟨htimes, hempty⟩ := of_decide_eq_true htest
  refine ⟨tr, sr, hrun, htimes, hempty, retrySchedule_of_run hrun ?_ 0⟩
  intro x hx req
  have hmem := hinputs ▸ List.mem_map_of_mem (f := Prod.fst) hx
  simp only [List.map_cons, List.map_nil, List.mem_cons, List.not_mem_nil, or_false] at hmem
  rcases hmem with heq | heq | heq | heq | heq | heq | heq
  all_goals simp [heq, stillEnv]

end SimpleRouter
