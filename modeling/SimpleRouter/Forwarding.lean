import SimpleRouter.Custody

/-!
# Forwarding over whole runs

A transit packet leaves the router on one of two paths: at once, when the ARP table has its next
hop, or from the queue, when a reply for it arrives. Both need facts that were established steps
earlier: a queued packet keeps the route it was queued for (`Routed`), a valid table entry is what
some reply said (`LearnedFrom`).

* `nextHop_of_run` — **correct next hop**: every transit frame is sent on the interface of the
  longest prefix match of its destination, to the hardware address some reply received so far gave
  for that route's gateway.
* `flush_eq_forward` — **the slow path agrees with the fast path**: the frame the flush loop sends
  for a packet is the one `handle_ip_packet` would have sent at once, and it differs from the
  received frame in the hardware addresses, the TTL and the header checksum only.
-/

namespace SimpleRouter

open Buffer Machine

/-! ### What depends on the configuration only -/

section configuration

variable {ifList : List SrIf} {routingTable : List SrRt} {sr : SrInstance}

/-- Routes are looked up as in the beginning. -/
theorem RunInv.longestPrefixMatch (h : RunInv ifList routingTable sr) (destIp : UInt32) :
    srLongestPrefixMatch sr destIp = srLongestPrefixMatch (srInit ifList routingTable) destIp := by
  unfold srLongestPrefixMatch
  rw [h.routingTable_eq]
  rfl

/-- What is in transit is so as in the beginning. -/
theorem RunInv.isTransit_iff (h : RunInv ifList routingTable sr) (buf : List UInt8) :
    IsTransit sr buf ↔ IsTransit (srInit ifList routingTable) buf := by
  unfold IsTransit getDstInterface
  rw [h.ifList_eq]
  rfl

end configuration

/-! ### What is true of every waiting packet -/

/-- A packet waiting after an action was waiting before it or has just been queued. -/
theorem Action.mem_waiting {i : Input} {sr sr' : SrInstance} {out : List Effect}
    {x : UInt32 × SrPacket} (hI : CacheInv sr.cache) (h : Action i sr out sr')
    (hx : x ∈ waiting sr'.cache) : x ∈ waiting sr.cache ∨ x ∈ enqueued out := by
  have hmem := (h.balance hI).mem_iff (a := x)
  rw [List.mem_append, List.mem_append, List.mem_append] at hmem
  exact (hmem.mpr (.inl (.inl hx))).symm

/-- A packet queued is the transit copy of the frame received, with its route. -/
theorem Action.origin {i : Input} {sr sr' : SrInstance} {out : List Effect} {ip : UInt32}
    {pkt : SrPacket} (h : Action i sr out sr') (he : .enqueue ip pkt ∈ out) :
    ∃ buf interface rt, i.event = .packet buf interface ∧
      ethertype buf i.env.after = 0x0800 ∧ IsTransit sr buf ∧ ipTtl buf - 1 ≠ 0 ∧
      srLongestPrefixMatch sr (ipDst buf) = some rt ∧ rt.gw = ip ∧
      pkt.buf = transitCopy buf ∧ pkt.iface = rt.interface := by
  cases h.emits he with
  | queue hevent htype hverdict =>
      obtain ⟨ht, httl, hrt, -, rfl⟩ := verdict_queue_iff.mp hverdict
      exact ⟨_, _, _, hevent, htype, ht, httl, hrt, rfl, rfl, rfl⟩

/-! ### The next hop -/

section nextHop

variable {ifList : List SrIf} {routingTable : List SrRt} {tr : History} {sr sr' : SrInstance}
  {i : Input} {out o : List Effect}

/-- The packet is the copy of a transit frame, and waits for the gateway of its route. -/
def Routed (sr₀ : SrInstance) (x : UInt32 × SrPacket) : Prop :=
  ∃ buf rt, IsTransit sr₀ buf ∧ srLongestPrefixMatch sr₀ (ipDst buf) = some rt ∧ rt.gw = x.1 ∧
    x.2.buf = transitCopy buf ∧ x.2.iface = rt.interface

/-- An ARP reply of the trace said that `ip` is at `sha`. -/
def LearnedFrom (tr : History) (ip : UInt32) (sha : EtherAddr) : Prop :=
  ∃ i out interface, (i, out) ∈ tr ∧ i.IsReply interface ip sha

/-- Waiting packets are routed and valid entries are learned. -/
structure NextHopInv (ifList : List SrIf) (routingTable : List SrRt) (tr : History)
    (sr : SrInstance) : Prop extends RunInv ifList routingTable sr where
  /-- Waiting packets. -/
  routed : ∀ x ∈ waiting sr.cache, Routed (srInit ifList routingTable) x
  /-- Valid entries. -/
  learned : ∀ e ∈ sr.cache.entries, e.valid → LearnedFrom tr e.ip e.mac

/-- A packet that waits has been routed to the address its request asks for. -/
theorem NextHopInv.routed_of_mem {req : SrArpreq} {pkt : SrPacket}
    (hN : NextHopInv ifList routingTable tr sr) (hreq : req ∈ sr.cache.requests)
    (hpkt : pkt ∈ req.packets) :
    ∃ buf rt, IsTransit (srInit ifList routingTable) buf ∧
      srLongestPrefixMatch (srInit ifList routingTable) (ipDst buf) = some rt ∧ rt.gw = req.ip ∧
      pkt.buf = transitCopy buf ∧ pkt.iface = rt.interface :=
  hN.routed _ (mem_waiting_iff.mpr ⟨req, hreq, rfl, hpkt⟩)

/-- What a trace has said, it says as it grows. -/
theorem LearnedFrom.mono {tr' : History} {ip : UInt32} {sha : EtherAddr}
    (hsub : ∀ i out, (i, out) ∈ tr → ∃ out', (i, out') ∈ tr') (h : LearnedFrom tr ip sha) :
    LearnedFrom tr' ip sha := by
  obtain ⟨i, out, interface, hi, hreply⟩ := h
  obtain ⟨out', hi'⟩ := hsub i out hi
  exact ⟨i, out', interface, hi', hreply⟩

/-- An input of the run stays one when its last step does more. -/
theorem mem_snoc_output {x : List Effect} (j : Input)
    (hj : (j, x) ∈ tr ++ [(i, out)]) : ∃ out', (j, out') ∈ tr ++ [(i, out ++ o)] := by
  rcases List.mem_append.mp hj with hj | hj
  · exact ⟨x, List.mem_append_left _ hj⟩
  · obtain ⟨rfl, rfl⟩ := Prod.mk.inj (List.mem_singleton.mp hj)
    exact ⟨x ++ o, List.mem_append_right _ (List.mem_singleton_self _)⟩

/-- What an action leaves in the table was there, or comes from the reply it handles, with the time
of that. -/
theorem Action.mem_entries {e : SrArpentry} (h : Action i sr out sr') (he : e ∈ sr'.cache.entries)
    (hv : e.valid) : e ∈ sr.cache.entries ∨
      ∃ interface, i.IsReply interface e.ip e.mac ∧ e.added = i.env.now := by
  cases h with
  | respond | forward | reply | dangling | transmit | giveUp => exact .inl he
  | queue =>
      rw [queuereq_entries] at he
      exact .inl he
  | learn hevent htype hop hfind =>
      rcases mem_fillSlot he with he | rfl
      · exact .inl he
      · exact .inr ⟨_, ⟨_, hevent, htype, hop, rfl, rfl⟩, rfl⟩
  | flush hevent htype hop hfind hout =>
      rcases mem_fillSlot he with he | rfl
      · exact .inl he
      · exact .inr ⟨_, ⟨_, hevent, htype, hop, rfl, rfl⟩, rfl⟩
  | expire => exact .inl (mem_of_mem_expire he hv)

/-- An action keeps it. -/
theorem NextHopInv.action (hN : NextHopInv ifList routingTable (tr ++ [(i, out)]) sr)
    (h : Action i sr o sr') : NextHopInv ifList routingTable (tr ++ [(i, out ++ o)]) sr' where
  toRunInv := hN.toRunInv.action h
  routed := by
    rintro ⟨ip, pkt⟩ hx
    rcases h.mem_waiting hN.cache hx with hx | hx
    · exact hN.routed _ hx
    · obtain ⟨buf, _, rt, -, -, ht, -, hrt, rfl, hbuf, hiface⟩ :=
        h.origin (mem_enqueued_iff.mp hx)
      rw [hN.longestPrefixMatch] at hrt
      exact ⟨buf, rt, (hN.isTransit_iff buf).mp ht, hrt, rfl, hbuf, hiface⟩
  learned := by
    intro e he hv
    rcases h.mem_entries he hv with he | ⟨interface, hreply, -⟩
    · exact (hN.learned e he hv).mono fun j _ hj => mem_snoc_output j hj
    · exact ⟨i, out ++ o, interface, List.mem_append_right _ (List.mem_singleton_self _), hreply⟩

/-- It holds in the beginning, and is kept. -/
theorem nextHopInv_inductive :
    Inductive Action (srInit ifList routingTable) (NextHopInv ifList routingTable) where
  init := by
    refine ⟨runInv_inductive.init, by simp [waiting, srInit, srArpcacheInit], ?_⟩
    intro e he hv
    rw [(List.mem_replicate.mp he).2] at hv
    cases hv
  input := fun tr sr i hN => ⟨hN.toRunInv, hN.routed, fun e he hv =>
    (hN.learned e he hv).mono fun j out hj => ⟨out, List.mem_append_left _ hj⟩⟩
  action := fun _ _ _ _ _ _ hN h => hN.action h

/-- It holds in every run. -/
theorem nextHopInv_of_run (h : Run step (srInit ifList routingTable) tr sr) :
    NextHopInv ifList routingTable tr sr :=
  nextHopInv_inductive.run step_refines h

/-- A call of `sr_send_packet` for a transit packet: on a cache hit, or by the flush loop. -/
def Caller.IsTransit : Caller → Prop
  | .forward => True
  | .flush _ _ => True
  | _ => False

/-- The frame goes to the next hop of its destination, at an address learned in the trace. -/
def ToNextHop (sr₀ : SrInstance) (tr : History) (p : List UInt8) (name : IfaceName) : Prop :=
  ∃ rt sha, srLongestPrefixMatch sr₀ (ipDst p) = some rt ∧ name = rt.interface ∧
    etherDhost p = sha.bytes ∧ LearnedFrom tr rt.gw sha

/-- A transit frame of an action goes to its next hop. -/
theorem NextHopInv.toNextHop {caller : Caller} {p : List UInt8} {name : IfaceName}
    (hN : NextHopInv ifList routingTable (tr ++ [(i, out)]) sr) (hcaller : caller.IsTransit)
    (h : Emits i sr (.send caller p name)) :
    ToNextHop (srInit ifList routingTable) (tr ++ [(i, out)]) p name := by
  cases h with
  | respond | reply | transmit | giveUp => exact hcaller.elim
  | @forward _ _ _ rt entry iface hevent htype hverdict hiface =>
      obtain ⟨ht, -, hrt, hlookup, rfl⟩ := verdict_forward_iff.mp hverdict
      obtain ⟨hentry, hv, hip⟩ := mem_of_lookup hlookup
      have hlen := ht.1
      refine ⟨rt, entry.mac, ?_, rfl, etherDhost_rewriteEther (by simp; omega), ?_⟩
      · rw [ipDst_rewriteEther, ipDst_transitCopy, ← hN.longestPrefixMatch]
        exact hrt
      · rw [← hip]
        exact hN.learned entry hentry hv
  | @flush interface sha req pkt iface hreply hreq hpkt hiface =>
      obtain ⟨buf, rt, ht, hrt, hgw, hbuf, hname⟩ := hN.routed_of_mem hreq hpkt
      have hlen := ht.1
      refine ⟨rt, sha, ?_, hname, etherDhost_rewriteEther ?_, ?_⟩
      · rw [ipDst_rewriteEther, hbuf, ipDst_transitCopy]
        exact hrt
      · rw [hbuf, length_transitCopy]
        omega
      · rw [hgw]
        exact ⟨i, out, interface, List.mem_append_right _ (List.mem_singleton_self _), hreply⟩

/-- **Correct next hop over whole runs.** A transit frame sent in a step of a run goes out on the
interface of the longest prefix match of its destination, to the hardware address that an ARP
reply from that route's gateway, received in this step or before, gave. -/
theorem nextHop_of_run {pre post : History} {caller : Caller} {p : List UInt8} {name : IfaceName}
    (h : Run step (srInit ifList routingTable) (pre ++ (i, out) :: post) sr)
    (hcaller : caller.IsTransit) (hsend : .send caller p name ∈ out) :
    ToNextHop (srInit ifList routingTable) (pre ++ [(i, out)]) p name := by
  refine nextHopInv_inductive.outputs (Q := fun tr _ e => ∀ caller p name,
    e = .send caller p name → caller.IsTransit →
      ToNextHop (srInit ifList routingTable) tr p name)
    step_refines ?_ ?_ h _ hsend _ _ _ rfl hcaller
  · rintro tr i out sr o sr' hN ha e he caller p name rfl hcaller
    exact hN.toNextHop hcaller (ha.emits he)
  · rintro tr i out out' e hQ caller p name rfl hcaller
    obtain ⟨rt, sha, hrt, hname, hdhost, hlearned⟩ := hQ caller p name rfl hcaller
    exact ⟨rt, sha, hrt, hname, hdhost, hlearned.mono fun j _ hj => mem_snoc_output j hj⟩

end nextHop

/-- The reply of the next hop flushes the packet to it. -/
theorem nextHop_twoPort : ∃ pre i out post sr p,
    Run step twoPort (pre ++ (i, out) :: post) sr ∧
      .send (.flush firstReq firstPkt) p (ethName 2) ∈ out ∧
      ToNextHop twoPort (pre ++ [(i, out)]) p (ethName 2) := by
  obtain ⟨tr, sr, hrun, -, htest⟩ := exists_run step twoPort
    [firstArrival, replyArrival (ethName 2)]
    (fun _ tr => .send (.flush firstReq firstPkt)
      (rewriteEther (transitCopy (udpFrame 2 9 64)) (mac 2) (mac 22)) (ethName 2) ∈ outputs tr)
    (by decide +kernel)
  obtain ⟨i, out, hi, hsend⟩ := mem_outputs.mp (of_decide_eq_true htest)
  obtain ⟨pre, post, rfl⟩ := List.append_of_mem hi
  exact ⟨pre, i, out, post, sr, _, hrun, hsend, nextHop_of_run hrun
    (show Caller.IsTransit (.flush firstReq firstPkt) from trivial) hsend⟩

/-! ### The slow path and the fast path -/

section slowPath

variable {ifList : List SrIf} {routingTable : List SrRt} {sr sr' : SrInstance} {i : Input}
  {out : List Effect} {buf : List UInt8} {interface : IfaceName} {rt : SrRt}

/-- On a cache hit a transit packet is forwarded at once. -/
theorem handleIpPacket_hit {env : Env} {entry : SrArpentry} {iface : SrIf}
    (ht : IsTransit sr buf) (httl : ipTtl buf - 1 ≠ 0)
    (hrt : srLongestPrefixMatch sr (ipDst buf) = some rt)
    (hentry : srArpcacheLookup sr.cache rt.gw = some entry)
    (hiface : srGetInterface sr rt.interface = some iface) :
    handleIpPacket sr env buf interface =
      .ok (sr, [.send .forward (rewriteEther (transitCopy buf) iface.addr entry.mac)
        rt.interface]) := by
  unfold handleIpPacket
  rw [verdict_forward_iff.mpr ⟨ht, httl, hrt, hentry, rfl⟩]
  simp only [bind, Except.bind, hiface, deref]

/-- On a miss it is queued, at the next packet address. -/
theorem enqueue_of_miss (hevent : i.event = .packet buf interface)
    (htype : ethertype buf i.env.after = 0x0800) (ht : IsTransit sr buf) (httl : ipTtl buf - 1 ≠ 0)
    (hrt : srLongestPrefixMatch sr (ipDst buf) = some rt)
    (hmiss : srArpcacheLookup sr.cache rt.gw = none) (h : step sr i = .ok (sr', out)) :
    .enqueue rt.gw (sr.cache.newPacket (transitCopy buf) rt.interface) ∈ out := by
  have hverdict := verdict_queue_iff.mpr ⟨ht, httl, hrt, hmiss, rfl⟩
  unfold step at h
  simp only [hevent, srHandlepacket, htype, if_true] at h
  obtain ⟨verdict, hverdict', h⟩ := ok_bind_iff.mp h
  obtain rfl := Except.ok.inj (hverdict.symm.trans hverdict')
  obtain ⟨⟨sr₁, out₁⟩, -, h⟩ := ok_bind_iff.mp h
  obtain ⟨-, rfl⟩ := Prod.mk.inj (Except.ok.inj h)
  exact List.mem_cons_self

/-- A step on an ARP reply puts out nothing, or flushes the request that waits for it. -/
theorem step_reply {ip : UInt32} {sha : EtherAddr} (hreply : i.IsReply interface ip sha)
    (h : step sr i = .ok (sr', out)) :
    (Keyed.find SrArpreq.ip ip sr.cache.requests = none ∧ out = []) ∨
      ∃ req, Keyed.find SrArpreq.ip ip sr.cache.requests = some req ∧
        FlushOut sr interface sha req out := by
  obtain ⟨buf, hevent, htype, hop, rfl, rfl⟩ := hreply
  unfold step at h
  simp only [hevent, srHandlepacket, htype] at h
  have h' : handleArpPacket sr i.env buf interface = .ok (sr', out) := h
  rcases handleArpPacket_reply hop h' with ⟨hnone, rfl, -⟩ | ⟨req, hfind, hout, -⟩
  · exact .inl ⟨hnone, rfl⟩
  · exact .inr ⟨req, hfind, hout⟩

/-- A reply to a request of the queue flushes it. -/
theorem flushOut_of_reply {ip : UInt32} {sha : EtherAddr} {req : SrArpreq}
    (hreply : i.IsReply interface ip sha)
    (hfind : Keyed.find SrArpreq.ip ip sr.cache.requests = some req)
    (h : step sr i = .ok (sr', out)) : FlushOut sr interface sha req out := by
  rcases step_reply hreply h with ⟨hnone, -⟩ | ⟨req', hfind', hout⟩
  · rw [hnone] at hfind
    cases hfind
  · obtain rfl := Option.some.inj (hfind.symm.trans hfind')
    exact hout

/-- A reply that comes in on an interface of the router is handled to the end. -/
theorem step_reply_ok {ip : UInt32} {sha : EtherAddr} {iface : SrIf}
    (hreply : i.IsReply interface ip sha) (hiface : srGetInterface sr interface = some iface) :
    ∃ sr' out, step sr i = .ok (sr', out) := by
  obtain ⟨buf, hevent, htype, hop, rfl, rfl⟩ := hreply
  have hstep : step sr i = handleArpPacket sr i.env buf interface := by
    unfold step
    simp only [hevent, srHandlepacket, htype]
    rfl
  rw [hstep]
  unfold handleArpPacket
  rw [if_neg (by rw [hop]; decide), if_pos hop, hiface]
  dsimp only [srArpcacheInsert]
  cases Keyed.find SrArpreq.ip (arSip buf i.env.after) sr.cache.requests with
  | none => exact ⟨_, _, rfl⟩
  | some req =>
      refine ⟨_, _, ok_bind_iff.mpr ⟨req.packets.map fun pkt => .send (.flush req pkt)
        (rewriteEther pkt.buf iface.addr (arSha buf i.env.after)) pkt.iface, ?_, rfl⟩⟩
      rw [mapM_ok_iff, List.forall₂_map_right_iff]
      exact List.forall₂_same.mpr fun _ _ => rfl

/-- **The slow path agrees with the fast path.** A transit packet with a route misses the ARP table
and is queued, at the packet address `s₁.cache.pktSeq`. If, after any further steps, the node there
is still on the queue when a reply from the gateway arrives on the route's interface, then the reply
is handled to the end and what the flush loop sends for the packet is what `handle_ip_packet` would
have sent on arrival, had the table held that reply's address; and the frame is the received one up
to the hardware addresses, the TTL and the header checksum. -/
theorem flush_eq_forward {pre mid : History} {s₁ s₂ s₃ : SrInstance} {j : Input}
    {sha : EtherAddr} {req : SrArpreq} {pkt : SrPacket} {iface : SrIf}
    (hpre : Run step (srInit ifList routingTable) pre s₁)
    (hevent : i.event = .packet buf interface) (htype : ethertype buf i.env.after = 0x0800)
    (ht : IsTransit s₁ buf) (httl : 2 ≤ (ipTtl buf).toNat)
    (hrt : srLongestPrefixMatch s₁ (ipDst buf) = some rt)
    (hmiss : srArpcacheLookup s₁.cache rt.gw = none) (harrive : step s₁ i = .ok (s₂, out))
    (hmid : Run step s₂ mid s₃) (hreq : req ∈ s₃.cache.requests) (hpkt : pkt ∈ req.packets)
    (hid : pkt.id = s₁.cache.pktSeq) (hreply : j.IsReply rt.interface rt.gw sha)
    (hiface : srGetInterface s₁ rt.interface = some iface) :
    ∃ s₄ out' p, step s₃ j = .ok (s₄, out') ∧ .send (.flush req pkt) p rt.interface ∈ out' ∧
      (∀ req' pkt' p' name', .send (.flush req' pkt') p' name' ∈ out' → pkt'.id = pkt.id →
        p' = p ∧ name' = rt.interface) ∧
      (∀ cache entry env, srArpcacheLookup cache rt.gw = some entry → entry.mac = sha →
        handleIpPacket { s₁ with cache := cache } env buf interface =
          .ok ({ s₁ with cache := cache }, [.send .forward p rt.interface])) ∧
      p.length = buf.length ∧
      ∀ k, 12 ≤ k → k ≠ 22 → k ≠ 24 → k ≠ 25 → p[k]? = buf[k]? := by
  have hrun : Run step (srInit ifList routingTable) (pre ++ [(i, out)] ++ mid) s₃ :=
    (hpre.snoc harrive).append hmid
  have hC := custody_of_run hrun
  have hI₁ := runInv_of_run hpre
  have hI₃ := runInv_of_run hrun
  have httl' : ipTtl buf - 1 ≠ 0 := sub_one_ne_zero httl
  -- the node still queued is the one queued on arrival
  have hwaits (pkt' : SrPacket) (hpkt' : pkt' ∈ req.packets) :
      (req.ip, pkt') ∈ enqueued (outputs (pre ++ [(i, out)] ++ mid)) := by
    rw [hC.account.mem_iff, List.mem_append, List.mem_append]
    exact .inl (.inl (mem_waiting_iff.mpr ⟨req, hreq, rfl, hpkt'⟩))
  have hqueued : (rt.gw, s₁.cache.newPacket (transitCopy buf) rt.interface) ∈
      enqueued (outputs (pre ++ [(i, out)] ++ mid)) := by
    refine mem_enqueued_iff.mpr (mem_outputs.mpr ⟨i, out, ?_, ?_⟩)
    · exact List.mem_append_left _ (List.mem_append_right _ (List.mem_singleton_self _))
    · exact enqueue_of_miss hevent htype ht httl' hrt hmiss harrive
  obtain ⟨hip, rfl⟩ := Prod.mk.inj
    (List.inj_on_of_nodup_map hC.id_nodup (hwaits pkt hpkt) hqueued hid)
  rw [hI₁.getInterface, ← hI₃.getInterface] at hiface
  obtain ⟨s₄, out', hflush⟩ := step_reply_ok hreply hiface
  have hout : FlushOut s₃ rt.interface sha req out' := by
    refine flushOut_of_reply hreply ?_ hflush
    exact (Keyed.find_eq_some_iff hI₃.cache.ip_nodup).mpr ⟨hreq, hip⟩
  obtain ⟨e, he, iface', hiface', rfl⟩ := exists_output hout hpkt
  obtain rfl := Option.some.inj (hiface.symm.trans hiface')
  refine ⟨s₄, out', _, hflush, he, ?_, ?_, ?_, ?_⟩
  · intro req' pkt' p' name' he' hid'
    obtain ⟨pkt'', hpkt'', iface', hiface', heq⟩ := exists_round hout he'
    cases heq
    obtain rfl := Option.some.inj (hiface.symm.trans hiface')
    obtain ⟨-, rfl⟩ := Prod.mk.inj
      (List.inj_on_of_nodup_map hC.id_nodup (hwaits pkt' hpkt'') (hwaits _ hpkt) hid')
    exact ⟨rfl, rfl⟩
  · rintro cache entry env hentry rfl
    rw [hI₃.getInterface, ← hI₁.getInterface] at hiface
    have ht' : IsTransit { s₁ with cache := cache } buf := ht
    exact handleIpPacket_hit ht' httl' hrt hentry hiface
  · rw [length_rewriteEther]
    exact length_transitCopy buf
  · intro k hk h22 h24 h25
    rw [getElem?_rewriteEther hk]
    exact getElem?_transitCopy ⟨h22, h24, h25⟩

end slowPath

/-- The packet of `firstArrival`, flushed by the reply of its next hop. -/
theorem flush_eq_forward_twoPort : ∃ s₂ out s₄ out' p, step twoPort firstArrival = .ok (s₂, out) ∧
    step s₂ (replyArrival (ethName 2)) = .ok (s₄, out') ∧
    .send (.flush firstReq firstPkt) p (ethName 2) ∈ out' ∧
    handleIpPacket { twoPort with cache := s₄.cache } (stillEnv 3) (udpFrame 2 9 64) (ethName 1) =
      .ok ({ twoPort with cache := s₄.cache }, [.send .forward p (ethName 2)]) := by
  have hrt : srLongestPrefixMatch twoPort (ipDst (udpFrame 2 9 64)) = some netRoute := by
    decide +kernel
  obtain ⟨⟨s₂, out⟩, harrive, h⟩ := exists_ok (step twoPort firstArrival)
    (fun r => firstReq ∈ r.1.cache.requests ∧
      okAnd (step r.1 (replyArrival (ethName 2))) fun r' =>
        srArpcacheLookup r'.1.cache (netAddr 2 2) = some ⟨mac 22, netAddr 2 2, 2, true⟩)
    (by decide +kernel)
  obtain ⟨hreq, h⟩ := of_decide_eq_true h
  obtain ⟨⟨s₄, out'⟩, hflush, hentry⟩ := exists_ok _ _ h
  obtain ⟨_, _, p, hflush', hsend, -, hfast, -, -⟩ := flush_eq_forward (i := firstArrival)
    (j := replyArrival (ethName 2)) .nil rfl (by decide +kernel) (by decide +kernel)
    (by decide +kernel) hrt (by decide +kernel) harrive .nil hreq (List.mem_singleton_self _) rfl
    ⟨_, rfl, by decide +kernel, by decide +kernel, by decide +kernel, rfl⟩
    (show srGetInterface twoPort (ethName 2) = some (ethIf 2) by decide +kernel)
  obtain ⟨rfl, rfl⟩ := Prod.mk.inj (Except.ok.inj (hflush.symm.trans hflush'))
  exact ⟨s₂, out, s₄, out', p, harrive, hflush, hsend,
    hfast _ _ _ (of_decide_eq_true hentry) (by decide +kernel)⟩

end SimpleRouter
