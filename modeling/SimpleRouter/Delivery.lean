import SimpleRouter.Network
import SimpleRouter.RetrySchedule

/-!
# Delivery

`Network` says what a network never does; this module says what it can always do. The way of a
datagram is read off the configuration: on each leg a router takes the frame, its best route for
the destination leads to an interface of its own, and on the LAN there somebody has the gateway's
address, a router or a host that answers ARP requests.

* `asked_of_run` — a request of the queue has asked on the interface of its gateway, or never.
* `Leads n s s'` — at most `n` events lead from `s` to `s'`, in which routers take frames that are
  on the wire, and hosts do no more than answer ARP requests.
* `Network.carries` — one leg, whatever the router holds: the ARP table may have the gateway or not,
  the table may be full, packets may wait for the gateway already, asked for or not.
* `Network.delivers` — **a datagram can be delivered from every reachable state**, in at most five
  events for each router on its way.
-/

namespace SimpleRouter

open Buffer Machine

/-! ### What has been asked for -/

section asked

variable {ifList : List SrIf} {routingTable : List SrRt} {tr : History} {i : Input}
  {sr sr' : SrInstance} {out o : List Effect} {r : SrArpreq}

/-- A request on the queue after an action has the counters it had, or has never been sent, or has
been sent in it. -/
theorem Action.asked (hI : CacheInv sr.cache) (h : Action i sr out sr')
    (hr : r ∈ sr'.cache.requests) :
    (∃ r₀ ∈ sr.cache.requests, r.id = r₀.id ∧ r.timesSent = r₀.timesSent ∧ r.sent = r₀.sent) ∨
      (r.timesSent = 0 ∧ r.sent = 0) ∨
      ∃ now p name, .send (.arpRequest r.id now) p name ∈ out := by
  cases h with
  | respond | forward | reply | expire | dangling => exact .inl ⟨r, hr, rfl, rfl, rfl⟩
  | queue => exact (mem_queuereq_schedule hr).imp_right fun h => .inl h.2
  | learn => exact .inl ⟨r, Keyed.mem_of_mem_erase hr, rfl, rfl, rfl⟩
  | flush =>
      exact .inl ⟨r, Keyed.mem_of_mem_erase (Keyed.mem_of_mem_erase hr), rfl, rfl, rfl⟩
  | transmit hfind =>
      rcases mem_resendCache hI.id_nodup (Keyed.mem_of_find hfind) hr with rfl | ⟨hr, -⟩
      · exact .inr (.inr ⟨_, _, _, List.mem_singleton_self _⟩)
      · exact .inl ⟨r, hr, rfl, rfl, rfl⟩
  | giveUp => exact .inl ⟨r, Keyed.mem_of_mem_erase hr, rfl, rfl, rfl⟩

/-- A request of the queue has been sent, or it has the counters of one that has not. -/
structure AskedInv (tr : History) (sr : SrInstance) : Prop where
  /-- The cache invariant. -/
  cache : CacheInv sr.cache
  /-- The requests. -/
  asked : ∀ r ∈ sr.cache.requests, (r.timesSent = 0 ∧ r.sent = 0) ∨
    ∃ now p name, .send (.arpRequest r.id now) p name ∈ outputs tr

/-- An action keeps it. -/
theorem AskedInv.action (hA : AskedInv (tr ++ [(i, out)]) sr) (h : Action i sr o sr') :
    AskedInv (tr ++ [(i, out ++ o)]) sr' := by
  have hsplit : outputs (tr ++ [(i, out ++ o)]) = outputs (tr ++ [(i, out)]) ++ o := by
    simp
  refine ⟨hA.cache.action h, fun r hr => ?_⟩
  rw [hsplit]
  rcases h.asked hA.cache hr with ⟨r₀, hr₀, hid, htimes, hsent⟩ | hnever | ⟨now, p, name, he⟩
  · rw [hid, htimes, hsent]
    refine (hA.asked r₀ hr₀).imp_right ?_
    rintro ⟨now, p, name, he⟩
    exact ⟨now, p, name, List.mem_append_left _ he⟩
  · exact .inl hnever
  · exact .inr ⟨now, p, name, List.mem_append_right _ he⟩

/-- It holds in every run. -/
theorem askedInv_of_run (h : Run step (srInit ifList routingTable) tr sr) : AskedInv tr sr := by
  have hind : Inductive Action (srInit ifList routingTable) AskedInv := by
    constructor
    case init =>
      refine ⟨CacheInv.init, ?_⟩
      rintro r ⟨⟩
    case input =>
      intro tr sr i hA
      have hsame : outputs (tr ++ [(i, [])]) = outputs tr := by simp
      exact ⟨hA.cache, hsame ▸ hA.asked⟩
    case action =>
      intro tr i out sr o sr' hA h
      exact hA.action h
  exact hind.run step_refines h

/-- An ARP request goes out of the interface of a route, for the gateway of that route. -/
theorem route_of_arpRequest {q : ℕ} {now : ℤ} {p : List UInt8} {name : IfaceName}
    (h : Run step (srInit ifList routingTable) tr sr)
    (hsend : .send (.arpRequest q now) p name ∈ outputs tr) :
    ∃ rt ∈ routingTable, ∃ iface, srGetInterface (srInit ifList routingTable) name = some iface ∧
      p = createArpRequest iface rt.gw ∧ name = rt.interface := by
  obtain ⟨i, out, hi, he⟩ := mem_outputs.mp hsend
  refine nextHopInv_inductive.output (Q := fun i e => ∀ q now p name,
    e = .send (.arpRequest q now) p name → ∃ rt ∈ routingTable, ∃ iface,
      srGetInterface (srInit ifList routingTable) name = some iface ∧
      p = createArpRequest iface rt.gw ∧ name = rt.interface) step_refines ?_ h hi he _ _ _ _ rfl
  rintro tr i out sr o sr' hN ha e he q now p name rfl
  cases ha.emits he with
  | transmit hreq hpkt hiface =>
      obtain ⟨buf, rt, -, hrt, hgw, -, hname⟩ := hN.routed_of_mem hreq hpkt
      rw [hN.getInterface] at hiface
      exact ⟨rt, mem_of_longestPrefixMatch hrt, _, hiface, by rw [hgw], hname⟩

/-- **A request of the queue has asked for its address on the interface of a route with that
gateway**, or it has the counters of one that has never been sent. -/
theorem asked_of_run (h : Run step (srInit ifList routingTable) tr sr)
    (hr : r ∈ sr.cache.requests) :
    (r.timesSent = 0 ∧ r.sent = 0) ∨
      ∃ now iface, ∃ rt ∈ routingTable, rt.gw = r.ip ∧
        srGetInterface (srInit ifList routingTable) rt.interface = some iface ∧
        .send (.arpRequest r.id now) (createArpRequest iface r.ip) rt.interface ∈ outputs tr := by
  refine ((askedInv_of_run h).asked r hr).imp_right ?_
  rintro ⟨now, p, name, hsend⟩
  obtain ⟨rt, hrt, iface, hiface, hp, rfl⟩ := route_of_arpRequest h hsend
  obtain ⟨-, -, hframes⟩ := requestsFor_of_run h
  obtain ⟨iface', -, hp'⟩ := hframes _ _ _ _ hsend r hr rfl
  have htip : arTip p (fun _ => 0) = rt.gw := by rw [hp, arTip_createArpRequest]
  have htip' : arTip p (fun _ => 0) = r.ip := by rw [hp', arTip_createArpRequest]
  have hgw : rt.gw = r.ip := htip.symm.trans htip'
  exact ⟨now, iface, rt, hrt, hgw, hiface, hgw ▸ hp ▸ hsend⟩

end asked

/-! ### Datagrams -/

/-- An IP packet for `dst` that every router takes. -/
structure Datagram (dst : UInt32) (p : List UInt8) : Prop where
  /-- It has its headers. -/
  length : 34 ≤ p.length
  /-- `ethertype_ip`. -/
  type : slice p 12 2 = u16Bytes (htons 0x0800)
  /-- The header check accepts it. -/
  header : HeaderOk p
  /-- Where it goes. -/
  dst : ipDst p = dst

section datagram

variable {dst : UInt32} {p q : List UInt8} {k : ℕ} {shost dhost : EtherAddr}

/-- The header check looks at the header only. -/
theorem headerOk_iff_ipHdr : HeaderOk p ↔
    u16 (slice (ipHdr p) 10 2) = cksum (put (ipHdr p) 10 (u16Bytes 0)) := by
  rw [HeaderOk, ipSum, ipHdr, ipHdr, slice_slice (by omega),
    slice_put_of_subset (by omega) (by rw [length_u16Bytes]; omega)]

/-- The copy for transit is accepted by the next router. -/
theorem headerOk_transit (h : 34 ≤ p.length) :
    HeaderOk (rewriteEther (transitCopy p) shost dhost) := by
  rw [headerOk_iff_ipHdr, ipHdr, slice_rewriteEther (by omega), ← ipHdr, ← headerOk_iff_ipHdr]
  unfold transitCopy rewriteTransit
  exact headerOk_putCksum (by simp only [length_put]; omega)

/-- A router sends a datagram on as one for the same destination. -/
theorem Datagram.transit (h : Datagram dst p) :
    Datagram dst (rewriteEther (transitCopy p) shost dhost) where
  length := by
    rw [length_rewriteEther, length_transitCopy]
    exact h.length
  type := by
    rw [slice_rewriteEther (by omega), slice_transitCopy (by omega)]
    exact h.type
  header := headerOk_transit h.length
  dst := by
    rw [ipDst_rewriteEther, ipDst_transitCopy]
    exact h.dst

/-- And so do any number of them. -/
theorem Datagram.hops (h : Datagram dst p) (hhops : Hops p k q) : Datagram dst q := by
  induction hhops with
  | zero => exact h
  | succ shost dhost _ _ _ _ ih => exact ih.transit

/-- Its copy has room for the hardware addresses. -/
theorem Datagram.le_length_transitCopy (h : Datagram dst p) : 12 ≤ (transitCopy p).length := by
  rw [length_transitCopy]
  exact le_trans (by decide) h.length

/-- A datagram is an IP frame. -/
theorem Datagram.ethertype (h : Datagram dst p) (after : ℕ → UInt8) :
    ethertype p after = 0x0800 := by
  have hlen := h.length
  rw [ethertype_eq (by omega), h.type, u16_u16Bytes, htons_htons]

/-- It is in transit at a router none of whose interfaces has its destination. -/
theorem Datagram.isTransit {sr : SrInstance} (h : Datagram dst p)
    (hforeign : ∀ iface ∈ sr.ifList, iface.ip ≠ dst) : IsTransit sr p := by
  refine ⟨h.length, h.header, List.find?_eq_none.mpr fun iface hmem => ?_⟩
  rw [h.dst, decide_eq_true_iff]
  exact hforeign iface hmem

end datagram

/-! ### A miss -/

section miss

variable {sr : SrInstance} {env : Env} {p packet : List UInt8} {iface : IfaceName}
  {rt : SrRt} {ip : UInt32}

/-- Queueing a packet puts it at the head of a request for the address, with the counters of the
one that was there, or those of a new one. -/
theorem queuereq_head {cache : SrArpcache} (hI : CacheInv cache) (hp : packet ≠ [])
    (hmiss : srArpcacheLookup cache ip = none)
    (hnever : ∀ req, Keyed.find SrArpreq.ip ip cache.requests = some req →
      req.timesSent = 0 ∧ req.sent = 0) :
    ∃ req, Keyed.find SrArpreq.id (srArpcacheQueuereq cache ip packet iface).2
        (srArpcacheQueuereq cache ip packet iface).1.requests = some req ∧
      req.ip = ip ∧ req.timesSent = 0 ∧ req.sent = 0 ∧
      req.packets.head? = some (cache.newPacket packet iface) := by
  have hI' : CacheInv (srArpcacheQueuereq cache ip packet iface).1 := hI.queuereq hp hmiss
  cases hfind : Keyed.find SrArpreq.ip ip cache.requests with
  | none =>
      rw [queuereq_new hp hfind] at hI' ⊢
      exact ⟨_, (Keyed.find_eq_some_iff hI'.id_nodup).mpr ⟨List.mem_cons_self, rfl⟩, rfl, rfl, rfl,
        rfl⟩
  | some req =>
      obtain ⟨htimes, hsent⟩ := hnever req hfind
      rw [queuereq_found hp hfind] at hI' ⊢
      have hip : req.ip = ip := Keyed.key_of_find hfind
      refine ⟨req.push (cache.newPacket packet iface), ?_, hip, htimes, hsent, rfl⟩
      rw [Keyed.find_eq_some_iff hI'.id_nodup]
      refine ⟨?_, rfl⟩
      exact (Keyed.mem_modify_iff hI.id_nodup ((Keyed.find_eq_some_iff hI.id_nodup).mpr
        ⟨Keyed.mem_of_find hfind, rfl⟩)).mpr (.inl rfl)

/-- **On a miss** with nothing asked yet, a transit packet is queued for its gateway and an ARP
request is sent at once, unless the clock is at zero. -/
theorem step_miss (name : IfaceName) {intf : SrIf} (hI : CacheInv sr.cache)
    (htype : ethertype p env.after = 0x0800)
    (ht : IsTransit sr p) (httl : ipTtl p - 1 ≠ 0)
    (hrt : srLongestPrefixMatch sr (ipDst p) = some rt)
    (hmiss : srArpcacheLookup sr.cache rt.gw = none)
    (hnever : ∀ req, Keyed.find SrArpreq.ip rt.gw sr.cache.requests = some req →
      req.timesSent = 0 ∧ req.sent = 0)
    (hintf : srGetInterface sr rt.interface = some intf) (hclock : ∀ q, 1 ≤ env.clock q) :
    ∃ sr' req, step sr ⟨env, .packet p name⟩ = .ok (sr',
        [.enqueue rt.gw (sr.cache.newPacket (transitCopy p) rt.interface),
          .send (.arpRequest req.id (env.clock req.id)) (createArpRequest intf rt.gw)
            rt.interface]) ∧
      Keyed.find SrArpreq.ip rt.gw sr'.cache.requests = some req ∧
      sr.cache.newPacket (transitCopy p) rt.interface ∈ req.packets := by
  have hne : transitCopy p ≠ [] := by
    have hlen : 34 ≤ (transitCopy p).length := by
      rw [length_transitCopy]
      exact ht.1
    rintro hnil
    rw [hnil] at hlen
    cases hlen
  obtain ⟨req, hfind, hip, htimes, hsent, hhead⟩ :
      ∃ req, Keyed.find SrArpreq.id
          (srArpcacheQueuereq sr.cache rt.gw (transitCopy p) rt.interface).2
          (srArpcacheQueuereq sr.cache rt.gw (transitCopy p) rt.interface).1.requests = some req ∧
        req.ip = rt.gw ∧ req.timesSent = 0 ∧ req.sent = 0 ∧
        req.packets.head? = some (sr.cache.newPacket (transitCopy p) rt.interface) :=
    queuereq_head hI hne hmiss hnever
  have hI' : CacheInv (srArpcacheQueuereq sr.cache rt.gw (transitCopy p) rt.interface).1 :=
    hI.queuereq hne hmiss
  have hdue : env.clock req.id - req.sent ≥ 1 := by
    rw [hsent, Int.sub_zero]
    exact hclock req.id
  generalize hqueued : srArpcacheQueuereq sr.cache rt.gw (transitCopy p) rt.interface = queued
    at hfind hI'
  have hid : req.id = queued.2 := Keyed.key_of_find hfind
  have hmem : req ∈ queued.1.requests := Keyed.mem_of_find hfind
  refine ⟨{ sr with cache := resendCache queued.1 req.id (env.clock req.id) },
    req.resend (env.clock req.id), ?_, ?_, List.mem_of_mem_head? hhead⟩
  · have hverdict : ipPacketVerdict sr p = .ok (.queue (transitCopy p) rt) :=
      verdict_queue_iff.mpr ⟨ht, httl, hrt, hmiss, rfl⟩
    have harpreq : handleArpreq { sr with cache := queued.1 } env queued.2 =
        .ok ({ sr with cache := resendCache queued.1 req.id (env.clock req.id) },
          [.send (.arpRequest req.id (env.clock req.id)) (createArpRequest intf rt.gw)
            rt.interface]) := by
      unfold handleArpreq
      rw [← hid] at hfind ⊢
      simp only [hfind]
      rw [if_pos hdue, if_neg (by rw [htimes]; decide), ← hip]
      refine ok_bind_iff.mpr ⟨_, deref_ok_iff.mpr hhead, ?_⟩
      exact ok_bind_iff.mpr ⟨intf, deref_ok_iff.mpr hintf, rfl⟩
    change srHandlepacket sr env p name = _
    rw [srHandlepacket, if_pos htype, handleIpPacket, hverdict]
    simp only [bind, Except.bind, hqueued, harpreq]
    rfl
  · have hresent : CacheInv (resendCache queued.1 req.id (env.clock req.id)) :=
      hI'.resend hmem (by rw [htimes]; decide)
    refine (Keyed.find_eq_some_iff hresent.ip_nodup).mpr ⟨?_, hip⟩
    exact (Keyed.mem_modify_iff hI'.id_nodup ((Keyed.find_eq_some_iff hI'.id_nodup).mpr
      ⟨hmem, rfl⟩)).mpr (.inl rfl)

end miss

namespace Network

variable {ρ L : Type}

/-! ### The way of a datagram -/

section way

variable (N : Network ρ L) (hosts : L → SrIf → Prop) (binds : UInt32 → EtherAddr → Prop)
  (dst : UInt32)

/-- Who answers ARP requests on a LAN: the interfaces of routers, and those of hosts. -/
inductive On (l : L) : SrIf → Prop
  /-- An interface of a router. -/
  | router {r : ρ} {name : IfaceName} {owner : SrIf}
      (howner : srGetInterface (N.init r) name = some owner) (hlan : N.lan r name = l) : On l owner
  /-- The interface of a host. -/
  | host {owner : SrIf} (howner : hosts l owner) : On l owner

/-- **A network without conflicts**: each address has its hardware address to itself, and no router
has routes with one gateway on two interfaces. -/
structure Sound : Prop where
  /-- `binds` has the addresses of the routers. -/
  routers : ∀ r, ∀ iface ∈ N.ifList r, binds iface.ip iface.addr
  /-- It has the addresses of the hosts. -/
  hosts : ∀ l owner, hosts l owner → binds owner.ip owner.addr
  /-- An address has one hardware address. -/
  unique : ∀ ip sha sha', binds ip sha → binds ip sha' → sha = sha'
  /-- A gateway is on one interface. -/
  gateway : ∀ r, ∀ rt ∈ N.routingTable r, ∀ rt' ∈ N.routingTable r,
    rt.gw = rt'.gw → rt.interface = rt'.interface

/-- Where a frame is. -/
structure Place (L : Type) where
  /-- The LAN it is on. -/
  lan : L
  /-- The interface that has sent it there. -/
  sender : SrIf
  /-- The interface it is for. -/
  receiver : SrIf

/-- **One leg** of the way to `dst`: the router `r` takes the frame, the destination is not its own,
and the best route leads to a LAN on which there is the gateway. -/
structure Leg (x y : Place L) (r : ρ) (name : IfaceName) (rt : SrRt) : Prop where
  /-- The interface the frame is for. -/
  receives : srGetInterface (N.init r) name = some x.receiver
  /-- It is on the LAN. -/
  lan : N.lan r name = x.lan
  /-- The destination is elsewhere. -/
  foreign : ∀ iface ∈ N.ifList r, iface.ip ≠ dst
  /-- The best route. -/
  route : srLongestPrefixMatch (N.init r) dst = some rt
  /-- The interface of the route. -/
  sends : srGetInterface (N.init r) rt.interface = some y.sender
  /-- It is on the next LAN. -/
  next : N.lan r rt.interface = y.lan
  /-- The gateway is there. -/
  on : N.On hosts y.lan y.receiver
  /-- It is the gateway. -/
  gw : y.receiver.ip = rt.gw

/-- The way to `dst` leads from a place through `k` routers to another. -/
inductive Way (x : Place L) : ℕ → Place L → Prop
  /-- The place itself. -/
  | nil : Way x 0 x
  /-- One more router. -/
  | snoc {k : ℕ} {y z : Place L} {r : ρ} {name : IfaceName} {rt : SrRt} (way : Way x k y)
      (leg : N.Leg hosts dst y z r name rt) : Way x (k + 1) z

end way

/-- A frame is on the wire at a place. -/
structure At (s : Medium.State ρ SrInstance (L × List UInt8)) (x : Place L) (p : List UInt8) :
    Prop where
  /-- It is on the LAN. -/
  air : (x.lan, p) ∈ s.air
  /-- Its source address. -/
  shost : etherShost p = x.sender.addr.bytes
  /-- Its destination address. -/
  dhost : etherDhost p = x.receiver.addr.bytes

/-! ### What comes after -/

section leads

variable [DecidableEq ρ] [DecidableEq L] (N : Network ρ L) (hosts : L → SrIf → Prop)
  (binds : UInt32 → EtherAddr → Prop) (env : Env)

/-- A reachable state of a network in which nobody has put a false ARP reply on the wire. -/
def Honest (s : Medium.State ρ SrInstance (L × List UInt8)) : Prop :=
  ∃ tr, N.Reaches tr s ∧ ∀ l p, .inject (l, p) ∈ tr.map Prod.fst → Truthful binds p

omit [DecidableEq ρ] [DecidableEq L] in
/-- A router takes a frame at the readings of `env`, or a host answers an ARP request. -/
def Calm : Medium.Event ρ Input (L × List UInt8) → Prop
  | .act _ i => ∃ p name, i = ⟨env, .packet p name⟩
  | .inject (l, q) => ∃ host p, hosts l host ∧ 42 ≤ p.length ∧ q = arpReplyFrame host p

/-- At most `n` calm events lead from `s` to `s'`. -/
def Leads (n : ℕ) (s s' : Medium.State ρ SrInstance (L × List UInt8)) : Prop :=
  ∃ t, Run (N.medium.whole step) s t s' ∧ t.length ≤ n ∧ ∀ x ∈ t, Calm hosts env x.1

variable {N hosts binds env} {s s₁ s₂ : Medium.State ρ SrInstance (L × List UInt8)} {m n : ℕ}
  {r : ρ} {l : L} {p : List UInt8} {name : IfaceName}

/-- No event leads nowhere. -/
theorem Leads.refl : N.Leads hosts env n s s :=
  ⟨[], .nil, Nat.zero_le n, fun _ h => absurd h List.not_mem_nil⟩

/-- One after the other, the events add up. -/
theorem Leads.trans (h : N.Leads hosts env m s s₁) (h' : N.Leads hosts env n s₁ s₂) :
    N.Leads hosts env (m + n) s s₂ := by
  obtain ⟨t, hrun, hlen, hcalm⟩ := h
  obtain ⟨t', hrun', hlen', hcalm'⟩ := h'
  refine ⟨t ++ t', hrun.append hrun', ?_, fun x hx => ?_⟩
  · rw [List.length_append]
    omega
  · exact (List.mem_append.mp hx).elim (hcalm x) (hcalm' x)

/-- More events may be granted. -/
theorem Leads.mono (h : N.Leads hosts env m s s₁) (hle : m ≤ n) : N.Leads hosts env n s s₁ := by
  obtain ⟨t, hrun, hlen, hcalm⟩ := h
  exact ⟨t, hrun, hlen.trans hle, hcalm⟩

/-- What is on the wire stays there. -/
theorem Leads.air (h : N.Leads hosts env n s s₁) : s.air ⊆ s₁.air := by
  obtain ⟨t, hrun, -, -⟩ := h
  exact Medium.air_subset hrun

/-- What is on a LAN stays there. -/
theorem Leads.at {x : Place L} (h : N.Leads hosts env n s s₁) (hat : At s x p) : At s₁ x p :=
  ⟨h.air hat.air, hat.shost, hat.dhost⟩

/-- A calm network stays honest. -/
theorem Leads.honest (hN : N.Sound hosts binds) (h : N.Leads hosts env n s s₁)
    (hs : N.Honest binds s) : N.Honest binds s₁ := by
  obtain ⟨t, hrun, -, hcalm⟩ := h
  obtain ⟨tr, hreach, htruth⟩ := hs
  refine ⟨tr ++ t, Run.append hreach hrun, ?_⟩
  intro l q hinject
  rw [List.map_append, List.mem_append] at hinject
  rcases hinject with hinject | hinject
  · exact htruth l q hinject
  · obtain ⟨x, hx, hevent⟩ := List.mem_map.mp hinject
    have hanswer : Calm hosts env (.inject (l, q) : Medium.Event ρ Input (L × List UInt8)) :=
      hevent ▸ hcalm x hx
    obtain ⟨host, p, hhost, hlen, rfl⟩ := hanswer
    intro after _ _
    rw [arSip_arpReplyFrame after hlen, arSha_arpReplyFrame after hlen]
    exact hN.hosts l host hhost

/-- **A router takes a frame** that is on a LAN of its own. -/
theorem leads_of_step {sr' : SrInstance} {o : List Effect} (hair : (N.lan r name, p) ∈ s.air)
    (hstep : step (s.node r) ⟨env, .packet p name⟩ = .ok (sr', o)) :
    N.Leads hosts env 1 s
      ⟨Function.update s.node r sr', o.filterMap (N.medium.puts r) ++ s.air⟩ := by
  have htakes : ∀ m ∈ N.medium.takes r ⟨env, .packet p name⟩, m ∈ s.air := by
    intro m hm
    rwa [← Option.some.inj hm]
  refine ⟨[(.act r ⟨env, .packet p name⟩, o.map fun e => (r, e))], ?_, le_rfl, ?_⟩
  · exact .single (Medium.whole_act_ok htakes hstep)
  · intro x hx
    rw [List.mem_singleton.mp hx]
    exact ⟨p, name, rfl⟩

omit [DecidableEq ρ] [DecidableEq L] in
/-- A frame that passes the address check is on the wire. -/
theorem puts_send {caller : Caller} {iface : SrIf}
    (hiface : srGetInterface (N.init r) name = some iface)
    (hshost : etherShost p = iface.addr.bytes) :
    N.medium.puts r (.send caller p name) = some (N.lan r name, p) :=
  if_pos (match_iff.mpr ⟨iface, hiface, hshost⟩)

omit [DecidableEq ρ] [DecidableEq L] in
/-- And it is so after the step that sends it. -/
theorem mem_sent {caller : Caller} {iface : SrIf} {o : List Effect} {air : List (L × List UInt8)}
    (he : .send caller p name ∈ o) (hiface : srGetInterface (N.init r) name = some iface)
    (hshost : etherShost p = iface.addr.bytes) :
    (N.lan r name, p) ∈ o.filterMap (N.medium.puts r) ++ air :=
  List.mem_append_left _ (List.mem_filterMap.mpr ⟨_, he, puts_send hiface hshost⟩)

/-! ### What the routers hold -/

/-- Every router has got where it is by a run of its own. -/
theorem Honest.run (hs : N.Honest binds s) (r : ρ) :
    ∃ tr, Run step (srInit (N.ifList r) (N.routingTable r)) tr (s.node r) := by
  obtain ⟨tr, hreach, -⟩ := hs
  exact ⟨_, hreach.node r⟩

/-- The invariant of a run holds at every router. -/
theorem Honest.runInv (hs : N.Honest binds s) (r : ρ) :
    RunInv (N.ifList r) (N.routingTable r) (s.node r) := by
  obtain ⟨tr, hrun⟩ := hs.run r
  exact runInv_of_run hrun

/-- A table entry is true. -/
theorem Honest.binds_of_lookup (hN : N.Sound hosts binds) (hs : N.Honest binds s) {ip : UInt32}
    {entry : SrArpentry} (h : srArpcacheLookup (s.node r).cache ip = some entry) :
    binds ip entry.mac := by
  obtain ⟨tr, hreach, htruth⟩ := hs
  obtain ⟨hmem, hvalid, rfl⟩ := mem_of_lookup h
  exact binds_of_learned hreach hN.routers htruth
    ((nextHopInv_of_run (hreach.node r)).learned entry hmem hvalid)

/-- A request of the queue is on the wire of its gateway, or has never been sent. -/
theorem Honest.asked (hs : N.Honest binds s) {req : SrArpreq}
    (hreq : req ∈ (s.node r).cache.requests) :
    (req.timesSent = 0 ∧ req.sent = 0) ∨ ∃ iface, ∃ rt ∈ N.routingTable r, rt.gw = req.ip ∧
      (N.lan r rt.interface, createArpRequest iface req.ip) ∈ s.air := by
  obtain ⟨tr, hreach, -⟩ := hs
  refine (asked_of_run (hreach.node r) hreq).imp_right ?_
  rintro ⟨now, iface, rt, hrt, hgw, hiface, hsend⟩
  exact ⟨iface, rt, hrt, hgw, Medium.mem_air hreach hsend
    (puts_send hiface etherShost_createArpRequest)⟩

end leads

/-! ### One leg -/

section leg

variable [DecidableEq ρ] [DecidableEq L] {N : Network ρ L} {hosts : L → SrIf → Prop}
  {binds : UInt32 → EtherAddr → Prop} {env : Env}
  {s : Medium.State ρ SrInstance (L × List UInt8)} {dst : UInt32} {x y : Place L} {r : ρ}
  {l : L} {name : IfaceName} {rt : SrRt} {asking owner iface : SrIf} {p : List UInt8}

/-- **Who has an address answers for it**, router or host. -/
theorem answers (env : Env) (hs : N.Honest binds s) (hon : N.On hosts l owner)
    (hair : (l, createArpRequest asking owner.ip) ∈ s.air) :
    ∃ s₁, N.Leads hosts env 1 s s₁ ∧ s₁.node = s.node ∧
      (l, arpReplyFrame owner (createArpRequest asking owner.ip)) ∈ s₁.air := by
  have hlen : 42 ≤ (createArpRequest asking owner.ip).length := length_createArpRequest.ge
  cases hon with
  | @router r name _ howner hlan =>
      subst hlan
      have howner' : srGetInterface (s.node r) name = some owner := by
        rw [(hs.runInv r).getInterface]
        exact howner
      refine ⟨_, leads_of_step hair (step_request howner'), Function.update_eq_self r s.node, ?_⟩
      exact mem_sent (List.mem_singleton_self _) howner (etherShost_arpReplyFrame hlen)
  | host howner =>
      refine ⟨⟨s.node, (l, arpReplyFrame owner (createArpRequest asking owner.ip)) :: s.air⟩,
        ⟨[(.inject (l, _), [])], Run.single rfl, le_rfl, ?_⟩, rfl,
        List.mem_cons_self⟩
      intro x hx
      rw [List.mem_singleton.mp hx]
      exact ⟨owner, _, howner, hlen, rfl⟩

/-- **An answer flushes** what waits for it. -/
theorem flushes (hosts : L → SrIf → Prop) (env : Env) (hs : N.Honest binds s)
    (hiface : srGetInterface (N.init r) name = some iface)
    (hair : (N.lan r name, arpReplyFrame owner (createArpRequest asking owner.ip)) ∈ s.air)
    {req : SrArpreq}
    (hfind : Keyed.find SrArpreq.ip owner.ip (s.node r).cache.requests = some req) :
    ∃ s₁, N.Leads hosts env 1 s s₁ ∧
      Keyed.find SrArpreq.ip owner.ip (s₁.node r).cache.requests = none ∧
      ∀ pkt ∈ req.packets, pkt.iface = name →
        (N.lan r name, rewriteEther pkt.buf iface.addr owner.addr) ∈ s₁.air := by
  have hI := (hs.runInv r).cache
  have hiface' : srGetInterface (s.node r) name = some iface := by
    rw [(hs.runInv r).getInterface]
    exact hiface
  have hreply : Input.IsReply ⟨env, .packet (arpReplyFrame owner
      (createArpRequest asking owner.ip)) name⟩ name owner.ip owner.addr := isReply_arpReplyFrame
  obtain ⟨sr', out, hstep⟩ := step_reply_ok hreply hiface'
  obtain ⟨rfl, hrequests⟩ := step_reply_found hI hreply hfind hiface' hstep
  refine ⟨_, leads_of_step hair hstep, ?_, ?_⟩
  · change Keyed.find SrArpreq.ip owner.ip
      (Function.update s.node r sr' r).cache.requests = none
    rw [Function.update_self, hrequests]
    cases hgone : Keyed.find SrArpreq.ip owner.ip
        (Keyed.erase SrArpreq.ip owner.ip (s.node r).cache.requests) with
    | none => rfl
    | some req' =>
        have hmem := (Keyed.mem_erase_iff hI.ip_nodup).mp (Keyed.mem_of_find hgone)
        exact absurd (Keyed.key_of_find hgone) hmem.2
  · rintro pkt hpkt rfl
    obtain ⟨tr, hrun⟩ := hs.run r
    have hlong := (nextHopInv_of_run hrun).length_buf (Keyed.mem_of_find hfind) hpkt
    exact mem_sent (List.mem_map_of_mem hpkt) hiface (etherShost_rewriteEther hlong)

/-- What a router that takes the frame finds. -/
theorem Leg.configured (hleg : N.Leg hosts dst x y r name rt) (hs : N.Honest binds s)
    (hp : Datagram dst p) : IsTransit (s.node r) p ∧
      srLongestPrefixMatch (s.node r) (ipDst p) = some rt ∧
      srGetInterface (s.node r) rt.interface = some y.sender := by
  have hI := hs.runInv r
  rw [hI.isTransit_iff, hI.longestPrefixMatch, hI.getInterface, hp.dst]
  exact ⟨hp.isTransit hleg.foreign, hleg.route, hleg.sends⟩

omit [DecidableEq ρ] [DecidableEq L] in
/-- The frame that gets there. -/
theorem at_transit {s₁ : Medium.State ρ SrInstance (L × List UInt8)} (hp : Datagram dst p)
    (hair : (y.lan, rewriteEther (transitCopy p) y.sender.addr y.receiver.addr) ∈ s₁.air) :
    At s₁ y (rewriteEther (transitCopy p) y.sender.addr y.receiver.addr) where
  air := hair
  shost := etherShost_rewriteEther hp.le_length_transitCopy
  dhost := etherDhost_rewriteEther hp.le_length_transitCopy

/-- **On a hit** the router forwards the frame to the gateway. -/
theorem carries_of_hit (hN : N.Sound hosts binds) (hs : N.Honest binds s)
    (hleg : N.Leg hosts dst x y r name rt) (hat : At s x p) (hp : Datagram dst p)
    (httl : ipTtl p - 1 ≠ 0) {entry : SrArpentry}
    (hentry : srArpcacheLookup (s.node r).cache rt.gw = some entry) :
    ∃ s₁, N.Leads hosts env 1 s s₁ ∧
      At s₁ y (rewriteEther (transitCopy p) y.sender.addr y.receiver.addr) := by
  obtain ⟨htransit, hroute, hsends⟩ := hleg.configured hs hp
  have howner : binds y.receiver.ip y.receiver.addr := by
    cases hleg.on with
    | router howner => exact hN.routers _ _ (mem_ifList_of_getInterface howner)
    | host howner => exact hN.hosts _ _ howner
  have hmac : entry.mac = y.receiver.addr :=
    hN.unique _ _ _ (hs.binds_of_lookup hN hentry) (hleg.gw ▸ howner)
  have hstep : step (s.node r) ⟨env, .packet p name⟩ = .ok (s.node r, [.send .forward
      (rewriteEther (transitCopy p) y.sender.addr y.receiver.addr) rt.interface]) := by
    change srHandlepacket (s.node r) env p name = _
    rw [srHandlepacket, if_pos (hp.ethertype _),
      handleIpPacket_hit htransit httl hroute hentry hsends, hmac]
  have hair : (N.lan r name, p) ∈ s.air := hleg.lan ▸ hat.air
  refine ⟨_, leads_of_step hair hstep, at_transit hp ?_⟩
  rw [← hleg.next]
  exact mem_sent (List.mem_singleton_self _) hleg.sends
    (etherShost_rewriteEther hp.le_length_transitCopy)

/-- **On a miss** with nothing asked yet, the router asks, the gateway answers, and the frame is
flushed. -/
theorem carries_of_miss (hN : N.Sound hosts binds) (hs : N.Honest binds s)
    (hleg : N.Leg hosts dst x y r name rt) (hat : At s x p) (hp : Datagram dst p)
    (httl : ipTtl p - 1 ≠ 0) (hclock : ∀ q, 1 ≤ env.clock q)
    (hmiss : srArpcacheLookup (s.node r).cache rt.gw = none)
    (hnever : ∀ req, Keyed.find SrArpreq.ip rt.gw (s.node r).cache.requests = some req →
      req.timesSent = 0 ∧ req.sent = 0) :
    ∃ s₃, N.Leads hosts env 3 s s₃ ∧
      At s₃ y (rewriteEther (transitCopy p) y.sender.addr y.receiver.addr) := by
  obtain ⟨htransit, hroute, hsends⟩ := hleg.configured hs hp
  obtain ⟨sr', req, hstep, hfind, hpkt⟩ := step_miss name (hs.runInv r).cache
    (hp.ethertype env.after) htransit httl hroute hmiss hnever hsends hclock
  have hair : (N.lan r name, p) ∈ s.air := hleg.lan ▸ hat.air
  have hasks : N.Leads hosts env 1 s _ := leads_of_step hair hstep
  have hasked : (N.lan r rt.interface, createArpRequest y.sender y.receiver.ip) ∈
      [Effect.enqueue rt.gw ((s.node r).cache.newPacket (transitCopy p) rt.interface),
        .send (.arpRequest req.id (env.clock req.id)) (createArpRequest y.sender rt.gw)
          rt.interface].filterMap (N.medium.puts r) ++ s.air := by
    rw [hleg.gw]
    exact mem_sent (List.mem_cons_of_mem _ (List.mem_singleton_self _)) hleg.sends
      etherShost_createArpRequest
  have hs₁ := hasks.honest hN hs
  obtain ⟨s₂, hanswers, hnode, hanswered⟩ :=
    answers env hs₁ (hleg.next ▸ hleg.on) hasked
  have hfind₂ : Keyed.find SrArpreq.ip y.receiver.ip (s₂.node r).cache.requests = some req := by
    rw [hnode, hleg.gw]
    change Keyed.find SrArpreq.ip rt.gw (Function.update s.node r sr' r).cache.requests = some req
    rw [Function.update_self]
    exact hfind
  obtain ⟨s₃, hflushes, -, hsent⟩ :=
    flushes hosts env (hanswers.honest hN hs₁) hleg.sends hanswered hfind₂
  refine ⟨s₃, (hasks.trans hanswers).trans hflushes, at_transit hp ?_⟩
  rw [← hleg.next]
  exact hsent _ hpkt rfl

/-- **One leg**: whatever the router holds, the frame gets to the gateway. -/
theorem carries (hN : N.Sound hosts binds) (hs : N.Honest binds s)
    (hleg : N.Leg hosts dst x y r name rt) (hat : At s x p) (hp : Datagram dst p)
    (httl : ipTtl p - 1 ≠ 0) (hclock : ∀ q, 1 ≤ env.clock q) :
    ∃ s', N.Leads hosts env 5 s s' ∧
      At s' y (rewriteEther (transitCopy p) y.sender.addr y.receiver.addr) := by
  cases hlookup : srArpcacheLookup (s.node r).cache rt.gw with
  | some entry =>
      obtain ⟨s', hleads, hat'⟩ := carries_of_hit hN hs hleg hat hp httl hlookup
      exact ⟨s', hleads.mono (by decide), hat'⟩
  | none =>
      by_cases hnever : ∀ req, Keyed.find SrArpreq.ip rt.gw (s.node r).cache.requests = some req →
          req.timesSent = 0 ∧ req.sent = 0
      · obtain ⟨s', hleads, hat'⟩ := carries_of_miss hN hs hleg hat hp httl hclock hlookup hnever
        exact ⟨s', hleads.mono (by decide), hat'⟩
      -- the gateway has been asked for already: it answers first, and the queue is without it
      obtain ⟨req, hfind, hsent⟩ : ∃ req, Keyed.find SrArpreq.ip rt.gw
          (s.node r).cache.requests = some req ∧ ¬ (req.timesSent = 0 ∧ req.sent = 0) := by
        simpa only [not_forall, exists_prop] using hnever
      have hip : req.ip = rt.gw := Keyed.key_of_find hfind
      obtain ⟨asking, rt', hrt', hgw, hasked⟩ :=
        (hs.asked (Keyed.mem_of_find hfind)).resolve_left hsent
      have hiface : rt'.interface = rt.interface := hN.gateway r rt' hrt' rt
        (mem_of_longestPrefixMatch hleg.route) (hgw.trans hip)
      rw [hiface, hip, ← hleg.gw] at hasked
      obtain ⟨s₁, hanswers, hnode, hanswered⟩ :=
        answers env hs (hleg.next ▸ hleg.on) hasked
      have hs₁ := hanswers.honest hN hs
      rw [← hnode, ← hleg.gw] at hfind
      obtain ⟨s₂, hflushes, hgone, -⟩ :=
        flushes hosts env hs₁ hleg.sends hanswered hfind
      have hs₂ := hflushes.honest hN hs₁
      have hat₂ := hflushes.at (hanswers.at hat)
      rw [hleg.gw] at hgone
      cases hlookup₂ : srArpcacheLookup (s₂.node r).cache rt.gw with
      | some entry =>
          obtain ⟨s', hleads, hat'⟩ := carries_of_hit hN hs₂ hleg hat₂ hp httl hlookup₂
          exact ⟨s', ((hanswers.trans hflushes).trans hleads).mono (by decide), hat'⟩
      | none =>
          obtain ⟨s', hleads, hat'⟩ := carries_of_miss hN hs₂ hleg hat₂ hp httl hclock hlookup₂
            (by rw [hgone]; rintro _ ⟨⟩)
          exact ⟨s', (hanswers.trans hflushes).trans hleads, hat'⟩

/-- **The whole way**: five events are enough for each router. -/
theorem carries_way (hN : N.Sound hosts binds) (hs : N.Honest binds s) {k : ℕ}
    (hway : N.Way hosts dst x k y) (hat : At s x p) (hp : Datagram dst p) (hlife : k < lifetime p)
    (hclock : ∀ q, 1 ≤ env.clock q) :
    ∃ s' q, N.Leads hosts env (5 * k) s s' ∧ At s' y q ∧ Hops p k q := by
  induction hway with
  | nil => exact ⟨s, p, .refl, hat, .zero⟩
  | @snoc k y z r name rt way leg ih =>
      obtain ⟨s₁, q, hleads, hat₁, hhops⟩ := ih (Nat.lt_of_succ_lt hlife)
      have hq : Datagram dst q := hp.hops hhops
      have httl : ipTtl q - 1 ≠ 0 := by
        have hlast := toNat_ttl_sub_one (q := q)
        have hsum := hhops.lifetime_add
        intro hzero
        rw [hzero, UInt8.toNat_zero] at hlast
        omega
      obtain ⟨s₂, hleads₂, hat₂⟩ := carries hN (hleads.honest hN hs) leg hat₁ hq httl hclock
      exact ⟨s₂, _, hleads.trans hleads₂, hat₂,
        hhops.succ _ _ hq.length hq.header httl⟩

end leg

end Network

/-- Two routers between two LANs with a host each, and a LAN between them. -/
def lineNet : Network Bool UInt8 where
  ifList r := bif r then [⟨ethName 1, mac 22, netAddr 2 2⟩, ⟨ethName 2, mac 31, netAddr 3 1⟩]
    else [ethIf 1, ethIf 2]
  routingTable r := bif r then
      [⟨netAddr 3 9, netAddr 3 9, u32 [255, 255, 255, 255], ethName 2⟩,
        ⟨netAddr 1 0, netAddr 2 1, u32 [255, 255, 255, 0], ethName 1⟩]
    else [⟨netAddr 3 0, netAddr 2 2, u32 [255, 255, 255, 0], ethName 2⟩,
      ⟨netAddr 1 9, netAddr 1 9, u32 [255, 255, 255, 255], ethName 1⟩]
  lan r name := if name = ethName 2 then bif r then 3 else 2 else bif r then 2 else 1

/-- The hosts of `lineNet`. -/
def lineHost (net : UInt8) : SrIf := ⟨ethName 0, ⟨[2, 0, 0, 0, net, 9], rfl⟩, netAddr net 9⟩

/-- The LANs they are on. -/
def lineHosts (l : UInt8) (host : SrIf) : Prop := (l, host) ∈ [(1, lineHost 1), (3, lineHost 3)]

/-- The hardware addresses of `lineNet`. -/
def lineBinds (ip : UInt32) (sha : EtherAddr) : Prop :=
  (ip, sha) ∈ [(netAddr 1 1, mac 1), (netAddr 2 1, mac 2), (netAddr 2 2, mac 22),
    (netAddr 3 1, mac 31), (netAddr 1 9, (lineHost 1).addr), (netAddr 3 9, (lineHost 3).addr)]

/-- The line of routers is sound. -/
theorem sound_lineNet : lineNet.Sound lineHosts lineBinds where
  routers := by
    unfold lineBinds
    decide +kernel
  hosts := by
    intro l owner h
    rcases List.mem_pair.mp h with h | h <;> cases h <;> unfold lineBinds <;> decide +kernel
  unique := by
    intro ip sha sha' h h'
    unfold lineBinds at h h'
    have hnd : ([(netAddr 1 1, mac 1), (netAddr 2 1, mac 2), (netAddr 2 2, mac 22),
      (netAddr 3 1, mac 31), (netAddr 1 9, (lineHost 1).addr),
      (netAddr 3 9, (lineHost 3).addr)].map Prod.fst).Nodup := by decide +kernel
    exact (Prod.mk.inj (List.inj_on_of_nodup_map hnd h h' rfl)).2
  gateway := by decide +kernel

/-- Where the datagram from one host to the other starts, and where it ends. -/
def lineStart : Network.Place UInt8 := ⟨1, lineHost 1, ethIf 1⟩

/-- Between the routers. -/
def lineMiddle : Network.Place UInt8 := ⟨2, ethIf 2, ⟨ethName 1, mac 22, netAddr 2 2⟩⟩

/-- Where it ends. -/
def lineEnd : Network.Place UInt8 := ⟨3, ⟨ethName 2, mac 31, netAddr 3 1⟩, lineHost 3⟩

/-- The leg through the first router. -/
theorem leg_lineStart : lineNet.Leg lineHosts (netAddr 3 9) lineStart lineMiddle false (ethName 1)
    ⟨netAddr 3 0, netAddr 2 2, u32 [255, 255, 255, 0], ethName 2⟩ where
  receives := by decide +kernel
  lan := by decide +kernel
  foreign := by decide +kernel
  route := by decide +kernel
  sends := by decide +kernel
  next := by decide +kernel
  on := .router (show srGetInterface (lineNet.init true) (ethName 1) = some lineMiddle.receiver by
    decide +kernel) (by decide +kernel)
  gw := by decide +kernel

/-- The leg through the second. -/
theorem leg_lineMiddle : lineNet.Leg lineHosts (netAddr 3 9) lineMiddle lineEnd true (ethName 1)
    ⟨netAddr 3 9, netAddr 3 9, u32 [255, 255, 255, 255], ethName 2⟩ where
  receives := by decide +kernel
  lan := by decide +kernel
  foreign := by decide +kernel
  route := by decide +kernel
  sends := by decide +kernel
  next := by decide +kernel
  on := .host (List.mem_cons_of_mem _ (List.mem_singleton_self _))
  gw := by decide +kernel

/-- The datagram has been sent, and nothing else has happened. -/
def lineSent (p : List UInt8) : Medium.State Bool SrInstance (UInt8 × List UInt8) :=
  ⟨lineNet.init, [(1, p)]⟩

/-- An IP frame on the first LAN is honest. -/
theorem honest_lineSent {p : List UInt8} (hlen : 14 ≤ p.length)
    (htype : slice p 12 2 = u16Bytes (htons 0x0800)) :
    lineNet.Honest lineBinds (lineSent p) := by
  refine ⟨[(.inject (1, p), [])], Run.single rfl, ?_⟩
  intro l q hq
  cases List.mem_singleton.mp hq
  exact truthful_of_ip hlen htype

end SimpleRouter
