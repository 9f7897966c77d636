import SimpleRouter.Transit

/-!
# The representation invariant of the ARP cache

`RepInv` is what every other property of the ARP subsystem rests on: one request for an address,
packets on every request, at most five transmissions, and no address that is both requested and
known. Its four parts hold only together: the table may learn an address because the insertion
takes out the *one* request for it, and a request is made only after a lookup has missed.

`CacheInv` adds what makes node addresses usable as names: the addresses of requests in the queue
are distinct and all nodes are older than the next one. Each operation of the cache keeps it
(`CacheInv.queuereq`, `.insert`, `.destroy`, `.resend`, `.expire`), hence every action does
(`CacheInv.action`), hence it holds in every run.

* `repInv_of_run` — **the invariant holds in every reachable state.**
-/

namespace SimpleRouter

open Buffer Machine

/-- The representation invariant. -/
structure RepInv (cache : SrArpcache) : Prop where
  /-- No two requests are for the same address. -/
  ip_nodup : (cache.requests.map SrArpreq.ip).Nodup
  /-- A packet waits on every request. -/
  packets_ne : ∀ req ∈ cache.requests, req.packets ≠ []
  /-- A request is sent five times at most. -/
  times_le : ∀ req ∈ cache.requests, req.timesSent ≤ 5
  /-- No address has a request and a valid entry. -/
  not_both : ∀ req ∈ cache.requests, ∀ e ∈ cache.entries, e.valid → e.ip ≠ req.ip

/-- The representation invariant, and node addresses that identify. -/
structure CacheInv (cache : SrArpcache) : Prop extends RepInv cache where
  /-- No two requests are at the same address. -/
  id_nodup : (cache.requests.map SrArpreq.id).Nodup
  /-- The next request is at a new address. -/
  id_lt : ∀ req ∈ cache.requests, req.id < cache.reqSeq
  /-- The next packet is at a new address. -/
  pkt_lt : ∀ req ∈ cache.requests, ∀ pkt ∈ req.packets, pkt.id < cache.pktSeq

/-! ### The operations -/

section operations

variable {cache : SrArpcache} {r req : SrArpreq}

/-- What is on the queue after a request has been sent. -/
theorem mem_resendCache {now : ℤ} (hnd : (cache.requests.map SrArpreq.id).Nodup)
    (hreq : req ∈ cache.requests) (h : r ∈ (resendCache cache req.id now).requests) :
    r = req.resend now ∨ (r ∈ cache.requests ∧ r.id ≠ req.id) :=
  (Keyed.mem_modify_iff hnd ((Keyed.find_eq_some_iff hnd).mpr ⟨hreq, rfl⟩)).mp h

/-- The empty cache. -/
theorem CacheInv.init : CacheInv srArpcacheInit where
  ip_nodup := List.nodup_nil
  packets_ne := by simp [srArpcacheInit]
  times_le := by simp [srArpcacheInit]
  not_both := by simp [srArpcacheInit]
  id_nodup := List.nodup_nil
  id_lt := by simp [srArpcacheInit]
  pkt_lt := by simp [srArpcacheInit]

/-- Changing one request, but neither its address nor the address it asks for. -/
theorem CacheInv.modify {f : SrArpreq → SrArpreq} {pktSeq : ℕ} (hI : CacheInv cache)
    (hreq : req ∈ cache.requests) (hip : ∀ r, (f r).ip = r.ip) (hid : ∀ r, (f r).id = r.id)
    (hne : (f req).packets ≠ []) (htimes : (f req).timesSent ≤ 5) (hseq : cache.pktSeq ≤ pktSeq)
    (hlt : ∀ pkt ∈ (f req).packets, pkt.id < pktSeq) :
    CacheInv { cache with
      requests := Keyed.modify SrArpreq.id req.id f cache.requests
      pktSeq := pktSeq } := by
  have hmem (r : SrArpreq) := Keyed.mem_modify_iff (b := r) (f := f) hI.id_nodup
    ((Keyed.find_eq_some_iff hI.id_nodup).mpr ⟨hreq, rfl⟩)
  have hips : (Keyed.modify SrArpreq.id req.id f cache.requests).map SrArpreq.ip =
      cache.requests.map SrArpreq.ip := Keyed.map_modify hip
  have hids : (Keyed.modify SrArpreq.id req.id f cache.requests).map SrArpreq.id =
      cache.requests.map SrArpreq.id := Keyed.map_modify hid
  constructor
  constructor
  case ip_nodup => exact hips.symm ▸ hI.ip_nodup
  case id_nodup => exact hids.symm ▸ hI.id_nodup
  all_goals
    intro r hr
    rcases (hmem r).mp hr with rfl | ⟨hr, -⟩
  · exact hne
  · exact hI.packets_ne r hr
  · exact htimes
  · exact hI.times_le r hr
  · rw [hip]
    exact hI.not_both req hreq
  · exact hI.not_both r hr
  · rw [hid]
    exact hI.id_lt req hreq
  · exact hI.id_lt r hr
  · exact hlt
  · intro pkt hpkt
    exact (hI.pkt_lt r hr pkt hpkt).trans_le hseq

/-- Putting a new packet on a request. -/
theorem CacheInv.push {packet : List UInt8} {iface : IfaceName} (hI : CacheInv cache)
    (hreq : req ∈ cache.requests) :
    CacheInv { cache with
      requests := Keyed.modify SrArpreq.id req.id (SrArpreq.push (cache.newPacket packet iface))
        cache.requests
      pktSeq := cache.pktSeq + 1 } := by
  refine hI.modify hreq (fun _ => rfl) (fun _ => rfl) (List.cons_ne_nil _ _)
    (hI.times_le req hreq) (Nat.le_succ _) ?_
  intro pkt hpkt
  rcases List.mem_cons.mp hpkt with rfl | hpkt
  · exact Nat.lt_succ_self _
  · exact (hI.pkt_lt req hreq pkt hpkt).trans (Nat.lt_succ_self _)

/-- Making a request, with a packet on it, for an address that has none and is not in the table. -/
theorem CacheInv.addRequest {ip : UInt32} {packet : List UInt8} {iface : IfaceName}
    (hI : CacheInv cache) (hfind : ∀ req ∈ cache.requests, req.ip ≠ ip)
    (hmiss : ∀ e ∈ cache.entries, e.valid → e.ip ≠ ip) :
    CacheInv { cache with
      requests := ⟨cache.reqSeq, ip, 0, 0, [cache.newPacket packet iface]⟩ :: cache.requests
      reqSeq := cache.reqSeq + 1
      pktSeq := cache.pktSeq + 1 } := by
  constructor
  constructor
  case ip_nodup =>
    refine List.nodup_cons.mpr ⟨fun hip => ?_, hI.ip_nodup⟩
    obtain ⟨r, hr, hip⟩ := List.mem_map.mp hip
    exact hfind r hr hip
  case id_nodup =>
    refine List.nodup_cons.mpr ⟨fun hid => ?_, hI.id_nodup⟩
    obtain ⟨r, hr, hid⟩ := List.mem_map.mp hid
    exact (hI.id_lt r hr).ne hid
  all_goals
    intro r hr
    rcases List.mem_cons.mp hr with rfl | hr
  · exact List.cons_ne_nil _ _
  · exact hI.packets_ne r hr
  · exact Nat.zero_le _
  · exact hI.times_le r hr
  · exact hmiss
  · exact hI.not_both r hr
  · exact Nat.lt_succ_self _
  · exact (hI.id_lt r hr).trans (Nat.lt_succ_self _)
  · intro pkt hpkt
    rw [List.mem_singleton.mp hpkt]
    exact Nat.lt_succ_self _
  · intro pkt hpkt
    exact (hI.pkt_lt r hr pkt hpkt).trans (Nat.lt_succ_self _)

/-- Queueing a packet for an address that is not in the table. -/
theorem CacheInv.queuereq {ip : UInt32} {packet : List UInt8} {iface : IfaceName}
    (hI : CacheInv cache) (hp : packet ≠ []) (hmiss : srArpcacheLookup cache ip = none) :
    CacheInv (srArpcacheQueuereq cache ip packet iface).1 := by
  cases hfind : Keyed.find SrArpreq.ip ip cache.requests with
  | none =>
      rw [queuereq_new hp hfind]
      exact hI.addRequest (Keyed.find_eq_none_iff.mp hfind) (lookup_eq_none_iff.mp hmiss)
  | some req =>
      rw [queuereq_found hp hfind]
      exact hI.push (Keyed.mem_of_find hfind)

/-- Dropping requests and table entries. -/
theorem CacheInv.sublist {requests : List SrArpreq} {entries : List SrArpentry}
    (hlen : entries.length = 100) (hI : CacheInv cache) (hsub : requests.Sublist cache.requests)
    (hboth : ∀ req ∈ requests, ∀ e ∈ entries, e.valid → e.ip ≠ req.ip) :
    CacheInv { cache with
      entries := entries
      entries_length := hlen
      requests := requests } where
  ip_nodup := hI.ip_nodup.sublist (hsub.map _)
  packets_ne := fun r hr => hI.packets_ne r (hsub.subset hr)
  times_le := fun r hr => hI.times_le r (hsub.subset hr)
  not_both := hboth
  id_nodup := hI.id_nodup.sublist (hsub.map _)
  id_lt := fun r hr => hI.id_lt r (hsub.subset hr)
  pkt_lt := fun r hr => hI.pkt_lt r (hsub.subset hr)

/-- Learning an address: the one request for it leaves the queue as it enters the table. -/
theorem CacheInv.insert {mac : EtherAddr} {ip : UInt32} {now : ℤ} (hI : CacheInv cache) :
    CacheInv (srArpcacheInsert cache mac ip now).1 := by
  refine hI.sublist _ Keyed.erase_sublist ?_
  intro r hr e he hv
  obtain ⟨hr, hip⟩ := (Keyed.mem_erase_iff hI.ip_nodup).mp hr
  rcases mem_fillSlot he with he | rfl
  · exact hI.not_both r hr e he hv
  · exact hip.symm

/-- Freeing a request. -/
theorem CacheInv.destroy {id : ℕ} (hI : CacheInv cache) : CacheInv (srArpreqDestroy cache id) :=
  hI.sublist cache.entries_length Keyed.erase_sublist fun r hr =>
    hI.not_both r (Keyed.mem_of_mem_erase hr)

/-- Expiring table entries. -/
theorem CacheInv.expire {curtime : ℤ} (hI : CacheInv cache) : CacheInv (cache.expire curtime) :=
  hI.sublist _ (List.Sublist.refl _) fun r hr e he hv =>
    hI.not_both r hr e (mem_of_mem_expire he hv) hv

/-- Sending a request that has been sent less than five times. -/
theorem CacheInv.resend {now : ℤ} (hI : CacheInv cache) (hreq : req ∈ cache.requests)
    (htimes : req.timesSent < 5) : CacheInv (resendCache cache req.id now) :=
  hI.modify hreq (fun _ => rfl) (fun _ => rfl) (hI.packets_ne req hreq) htimes le_rfl
    (hI.pkt_lt req hreq)

end operations

/-! ### Runs -/

/-- What is queued is a frame with its headers. -/
theorem queued_ne_nil {sr : SrInstance} {buf packet : List UInt8} {rt : SrRt}
    (h : ipPacketVerdict sr buf = .ok (.queue packet rt)) : packet ≠ [] := by
  obtain ⟨ht, -, -, -, rfl⟩ := verdict_queue_iff.mp h
  intro hnil
  have hlen := congrArg List.length hnil
  rw [length_transitCopy, List.length_nil] at hlen
  exact absurd ht.1 (by omega)

/-- Every action keeps the invariant. -/
theorem CacheInv.action {i : Input} {sr sr' : SrInstance} {out : List Effect}
    (hI : CacheInv sr.cache) (h : Action i sr out sr') : CacheInv sr'.cache := by
  cases h with
  | respond | forward | reply | dangling => exact hI
  | queue _ _ hverdict =>
      obtain ⟨-, -, -, hmiss, -⟩ := verdict_queue_iff.mp hverdict
      exact hI.queuereq (queued_ne_nil hverdict) hmiss
  | learn => exact hI.insert
  | flush => exact hI.insert.destroy
  | transmit hfind _ htimes => exact hI.resend (Keyed.mem_of_find hfind) htimes
  | giveUp => exact hI.destroy
  | expire => exact hI.expire

/-- The invariant, as one of runs: interfaces and routes are those of the start, too. -/
structure RunInv (ifList : List SrIf) (routingTable : List SrRt) (sr : SrInstance) : Prop where
  /-- The cache invariant. -/
  cache : CacheInv sr.cache
  /-- The interfaces. -/
  ifList_eq : sr.ifList = ifList
  /-- The routes. -/
  routingTable_eq : sr.routingTable = routingTable

variable {ifList : List SrIf} {routingTable : List SrRt}

/-- A name is looked up as at the start. -/
theorem RunInv.getInterface {sr : SrInstance} (h : RunInv ifList routingTable sr)
    (name : IfaceName) :
    srGetInterface sr name = srGetInterface (srInit ifList routingTable) name := by
  unfold srGetInterface
  rw [h.ifList_eq]
  rfl

/-- An action keeps it. -/
theorem RunInv.action {i : Input} {sr sr' : SrInstance} {out : List Effect}
    (hI : RunInv ifList routingTable sr) (h : Action i sr out sr') :
    RunInv ifList routingTable sr' where
  cache := hI.cache.action h
  ifList_eq := h.frame.1.trans hI.ifList_eq
  routingTable_eq := h.frame.2.trans hI.routingTable_eq

/-- It holds in the beginning, and is kept. -/
theorem runInv_inductive :
    Inductive Action (srInit ifList routingTable) fun _ sr => RunInv ifList routingTable sr where
  init := ⟨CacheInv.init, rfl, rfl⟩
  input := fun _ _ _ h => h
  action := fun _ _ _ _ _ _ hI h => hI.action h

variable {tr : History} {sr : SrInstance}

/-- It holds in every run. -/
theorem runInv_of_run (h : Run step (srInit ifList routingTable) tr sr) :
    RunInv ifList routingTable sr :=
  runInv_inductive.run step_refines h

/-- **The representation invariant holds in every reachable state**: after any sequence of frames,
calls of `handle_arpreq` and timer iterations, at any clock readings. -/
theorem repInv_of_run (h : Run step (srInit ifList routingTable) tr sr) : RepInv sr.cache :=
  (runInv_of_run h).cache.toRepInv


/-- A run that ends with a packet queued and its request sent twice. -/
theorem repInv_twoPort : ∃ tr sr, Run step twoPort tr sr ∧
    sr.cache.requests.map SrArpreq.timesSent = [2] ∧ RepInv sr.cache := by
  obtain ⟨tr, sr, hrun, -, htest⟩ := exists_run step twoPort
    [firstArrival, ⟨stillEnv 2, .timer⟩]
    (fun sr _ => sr.cache.requests.map SrArpreq.timesSent = [2]) (by decide +kernel)
  exact ⟨tr, sr, hrun, by simpa using htest, repInv_of_run hrun⟩

end SimpleRouter
