import SimpleRouter.Checksums

/-!
# Out of which interface, and under which address

`sr_send_packet` drops a frame whose source address is not that of the interface it is to leave on.
The builders take the source address from an interface they look up themselves, and all but one
look up the interface they send on.

* `sendsMatch_iff` — **which runs pass the address check**: all frames of a run pass exactly if
  every ARP reply that flushes packets came in on an interface with the address of those the
  packets leave on. The flush loop takes the source address of the *arrival* interface
  (`flush_mismatch`).
* `backToSender_iff` — **where host unreachable goes**: back to where the packet came from exactly
  if its route leads out of the interface it came in on, for the interface stored with a queued
  packet is that of its route (`hostUnreachable_elsewhere`).
-/

namespace SimpleRouter

open Buffer Machine

variable {ifList : List SrIf} {routingTable : List SrRt} {tr : History} {sr sr' : SrInstance}
  {i : Input} {out : List Effect}

/-! ### The address check -/

/-- When the source address of a frame is that of the interface. -/
theorem match_iff {p : List UInt8} {name : IfaceName} :
    srEtherAddrsMatchInterface sr p name = true ↔
      ∃ iface, srGetInterface sr name = some iface ∧ etherShost p = iface.addr.bytes := by
  unfold srEtherAddrsMatchInterface
  cases h : srGetInterface sr name with
  | none => simp
  | some iface => simp

/-- The packets an ARP reply flushes leave on interfaces with the address of the one it came in
on. -/
def FlushAddrOk (sr : SrInstance) (i : Input) : Prop :=
  ∀ interface ip sha req pkt iface, i.IsReply interface ip sha →
    Keyed.find SrArpreq.ip ip sr.cache.requests = some req → pkt ∈ req.packets →
    srGetInterface sr interface = some iface →
    ∃ iface', srGetInterface sr pkt.iface = some iface' ∧ iface'.addr = iface.addr

/-- The call of the flush loop. -/
def Caller.IsFlush : Caller → Prop
  | .flush _ _ => True
  | _ => False

/-- A flush is one of a packet of a request. -/
theorem Caller.IsFlush.exists_eq {caller : Caller} (h : caller.IsFlush) :
    ∃ req pkt, caller = .flush req pkt := by
  cases caller with
  | flush req pkt => exact ⟨req, pkt, rfl⟩
  | forward | icmpResponse | arpReply | arpRequest | hostUnreachable => exact h.elim

/-- What is not flushed carries the address of its interface. -/
theorem match_of_emits {caller : Caller} {p : List UInt8} {name : IfaceName}
    (h : Emits i sr (.send caller p name)) (hcaller : ¬ caller.IsFlush) :
    srEtherAddrsMatchInterface sr p name = true := by
  rw [match_iff]
  cases h with
  | respond hevent htype hverdict hout =>
      obtain ⟨hlen, hmin⟩ := length_of_respond hverdict
      exact ⟨_, hout, etherShost_icmpResponseFrame (hlen ▸ hmin)⟩
  | forward hevent htype hverdict hiface =>
      obtain ⟨ht, -, -, -, rfl⟩ := verdict_forward_iff.mp hverdict
      have hlen := ht.1
      exact ⟨_, hiface, etherShost_rewriteEther (by simp; omega)⟩
  | reply hevent htype hlen hiface => exact ⟨_, hiface, etherShost_arpReplyFrame hlen⟩
  | flush => exact absurd trivial hcaller
  | transmit hreq hpkt hiface => exact ⟨_, hiface, etherShost_createArpRequest⟩
  | giveUp hreq hpkt hiface => exact ⟨_, hiface, etherShost_icmpT3Frame⟩

/-- A step that flushes handles an ARP reply, in the instance it starts from. -/
theorem flush_of_step {req : SrArpreq} {pkt : SrPacket} {p : List UInt8} {name : IfaceName}
    (h : step sr i = .ok (sr', out)) (hsend : .send (.flush req pkt) p name ∈ out) :
    ∃ interface sha iface, i.IsReply interface req.ip sha ∧
      Keyed.find SrArpreq.ip req.ip sr.cache.requests = some req ∧ pkt ∈ req.packets ∧
      srGetInterface sr interface = some iface ∧ p = rewriteEther pkt.buf iface.addr sha ∧
      name = pkt.iface := by
  obtain ⟨s₁, o, s₂, ha, hsend'⟩ := (step_refines _ _ _ _ h).exists_action hsend
  obtain ⟨interface, sha, -, hreply, -⟩ := (ha.emits hsend').flushed
  rcases step_reply hreply h with ⟨-, rfl⟩ | ⟨req', hfind, hout⟩
  · cases hsend
  · obtain ⟨pkt', hpkt, iface, hiface, heq⟩ := exists_round hout hsend
    cases heq
    exact ⟨interface, sha, iface, hreply, hfind, hpkt, hiface, rfl, rfl⟩

/-- A frame that waits is long enough to carry addresses. -/
theorem NextHopInv.length_buf {req : SrArpreq} {pkt : SrPacket}
    (hN : NextHopInv ifList routingTable tr sr) (hreq : req ∈ sr.cache.requests)
    (hpkt : pkt ∈ req.packets) : 12 ≤ pkt.buf.length := by
  obtain ⟨buf, -, ht, -, -, hbuf, -⟩ := hN.routed_of_mem hreq hpkt
  rw [hbuf, length_transitCopy]
  exact le_trans (by omega) ht.1

/-- **Which runs pass the address check.** All frames a run hands to `sr_send_packet` pass it
exactly if in each of its steps the packets an ARP reply flushes leave on interfaces with the
address of the one the reply came in on. -/
theorem sendsMatch_iff (h : Run step (srInit ifList routingTable) tr sr) :
    (∀ caller p name, .send caller p name ∈ outputs tr →
        srEtherAddrsMatchInterface (srInit ifList routingTable) p name = true) ↔
      ∀ pre i out post s s', tr = pre ++ (i, out) :: post →
        Run step (srInit ifList routingTable) pre s → step s i = .ok (s', out) →
        FlushAddrOk s i := by
  constructor
  · rintro hmatch pre i out post s s' rfl hpre hstep interface ip sha req pkt iface hreply hfind
      hpkt hiface
    have hN := nextHopInv_of_run hpre
    obtain ⟨e, he, iface₁, hiface₁, rfl⟩ :=
      exists_output (flushOut_of_reply hreply hfind hstep) hpkt
    obtain rfl := Option.some.inj (hiface.symm.trans hiface₁)
    have hin : (i, out) ∈ pre ++ (i, out) :: post := List.mem_append_right _ List.mem_cons_self
    obtain ⟨iface', hiface', hshost⟩ :=
      match_iff.mp (hmatch _ _ _ (mem_outputs.mpr ⟨i, out, hin, he⟩))
    rw [etherShost_rewriteEther (hN.length_buf (Keyed.mem_of_find hfind) hpkt)] at hshost
    rw [hN.getInterface]
    exact ⟨iface', hiface', EtherAddr.ext hshost.symm⟩
  · intro hcond caller p name hsend
    obtain ⟨i, out, hi, he⟩ := mem_outputs.mp hsend
    obtain ⟨pre, post, rfl⟩ := List.append_of_mem hi
    obtain ⟨s, s', hpre, hstep, -⟩ := h.split_step
    have hN := nextHopInv_of_run hpre
    by_cases hcaller : caller.IsFlush
    · obtain ⟨req, pkt, rfl⟩ := hcaller.exists_eq
      obtain ⟨interface, sha, iface, hreply, hfind, hpkt, hiface, rfl, rfl⟩ :=
        flush_of_step hstep he
      obtain ⟨iface', hiface', haddr⟩ := hcond pre i out post s s' rfl hpre hstep interface _ sha
        req pkt iface hreply hfind hpkt hiface
      rw [match_iff, ← hN.getInterface]
      refine ⟨iface', hiface', ?_⟩
      rw [etherShost_rewriteEther (hN.length_buf (Keyed.mem_of_find hfind) hpkt), haddr]
    · refine runInv_inductive.output (Q := fun i e => ∀ caller p name, e = .send caller p name →
        ¬ caller.IsFlush → srEtherAddrsMatchInterface (srInit ifList routingTable) p name = true)
        step_refines ?_ h hi he _ _ _ rfl hcaller
      rintro tr i out sr o sr' hI ha e he caller p name rfl hcaller
      obtain ⟨iface, hiface, hshost⟩ := match_iff.mp (match_of_emits (ha.emits he) hcaller)
      rw [hI.getInterface] at hiface
      exact match_iff.mpr ⟨iface, hiface, hshost⟩

/-- The effect is no frame that fails the address check. -/
def Effect.passes (sr : SrInstance) : Effect → Bool
  | .send _ p name => srEtherAddrsMatchInterface sr p name
  | _ => true

/-- A reply on the route's own interface: all frames pass. -/
theorem sendsMatch_twoPort : ∃ tr sr, Run step twoPort tr sr ∧ flushed (outputs tr) ≠ [] ∧
    (∀ caller p name, .send caller p name ∈ outputs tr →
      srEtherAddrsMatchInterface twoPort p name = true) ∧
    ∀ pre i out post s s', tr = pre ++ (i, out) :: post → Run step twoPort pre s →
      step s i = .ok (s', out) → FlushAddrOk s i := by
  obtain ⟨tr, sr, hrun, -, htest⟩ := exists_run step twoPort
    [firstArrival, replyArrival (ethName 2)]
    (fun _ tr => flushed (outputs tr) ≠ [] ∧ (outputs tr).all (Effect.passes twoPort))
    (by decide +kernel)
  obtain ⟨hne, hall⟩ := of_decide_eq_true htest
  have hpass : ∀ caller p name, .send caller p name ∈ outputs tr →
      srEtherAddrsMatchInterface twoPort p name = true := by
    intro caller p name hsend
    exact List.all_eq_true.mp hall _ hsend
  exact ⟨tr, sr, hrun, hne, hpass, (sendsMatch_iff hrun).mp hpass⟩

/-- The same reply on the other interface: the flushed frame carries that one's address, and
`sr_send_packet` drops it. -/
theorem flush_mismatch : ∃ tr sr p, Run step twoPort tr sr ∧
    .send (.flush firstReq firstPkt) p (ethName 2) ∈ outputs tr ∧
    srEtherAddrsMatchInterface twoPort p (ethName 2) = false := by
  obtain ⟨tr, sr, hrun, -, htest⟩ := exists_run step twoPort
    [firstArrival, replyArrival (ethName 1)]
    (fun _ tr => .send (.flush firstReq firstPkt)
      (rewriteEther (transitCopy (udpFrame 2 9 64)) (mac 1) (mac 22)) (ethName 2) ∈ outputs tr)
    (by decide +kernel)
  exact ⟨tr, sr, _, hrun, of_decide_eq_true htest, by decide +kernel⟩

/-! ### Where host unreachable goes -/

/-- A frame sent on an interface answers the packet `buf` where it was received, on `interface`:
it leaves there, for the packet's source, from that interface's addresses. -/
def BackToSender (sr₀ : SrInstance) (buf : List UInt8) (interface : IfaceName) (p : List UInt8)
    (name : IfaceName) : Prop :=
  name = interface ∧ etherDhost p = etherShost buf ∧ ipDst p = ipSrc buf ∧
    ∃ iface, srGetInterface sr₀ interface = some iface ∧ etherShost p = iface.addr.bytes ∧
      ipSrc p = iface.ip

/-- A packet queued in a run is the transit copy of the frame of its step, with its route. -/
theorem origin_of_enqueue {ip : UInt32} {pkt : SrPacket}
    (h : Run step (srInit ifList routingTable) tr sr) (hi : (i, out) ∈ tr)
    (he : .enqueue ip pkt ∈ out) :
    ∃ buf interface rt, i.event = .packet buf interface ∧ 34 ≤ buf.length ∧
      srLongestPrefixMatch (srInit ifList routingTable) (ipDst buf) = some rt ∧
      pkt.buf = transitCopy buf ∧ pkt.iface = rt.interface := by
  refine runInv_inductive.output (Q := fun i e => ∀ ip pkt, e = .enqueue ip pkt →
    ∃ buf interface rt, i.event = .packet buf interface ∧ 34 ≤ buf.length ∧
      srLongestPrefixMatch (srInit ifList routingTable) (ipDst buf) = some rt ∧
      pkt.buf = transitCopy buf ∧ pkt.iface = rt.interface) step_refines ?_ h hi he _ _ rfl
  rintro tr i out sr o sr' hI ha e he ip pkt rfl
  obtain ⟨buf, interface, rt, hevent, -, ht, -, hrt, -, hbuf, hiface⟩ := ha.origin he
  rw [hI.longestPrefixMatch] at hrt
  exact ⟨buf, interface, rt, hevent, ht.1, hrt, hbuf, hiface⟩

/-- A host unreachable of a run is the frame `sr_send_icmp_t3` builds for the queued packet. -/
theorem frame_of_unreachable {req : SrArpreq} {pkt : SrPacket} {p : List UInt8} {name : IfaceName}
    (h : Run step (srInit ifList routingTable) tr sr)
    (hsend : .send (.hostUnreachable req pkt) p name ∈ outputs tr) :
    ∃ iface after, srGetInterface (srInit ifList routingTable) pkt.iface = some iface ∧
      p = icmpT3Frame iface pkt.buf after 3 1 ∧ name = pkt.iface := by
  obtain ⟨i, out, hi, hsend⟩ := mem_outputs.mp hsend
  refine runInv_inductive.output (Q := fun i e => ∀ req pkt p name,
    e = .send (.hostUnreachable req pkt) p name →
    ∃ iface after, srGetInterface (srInit ifList routingTable) pkt.iface = some iface ∧
      p = icmpT3Frame iface pkt.buf after 3 1 ∧ name = pkt.iface) step_refines ?_ h hi hsend
    _ _ _ _ rfl
  rintro tr i out sr o sr' hI ha e he req pkt p name rfl
  obtain ⟨iface, hiface, hp, hname⟩ := (ha.emits he).unreachable
  rw [hI.getInterface] at hiface
  exact ⟨iface, _, hiface, hp, hname⟩

/-- **Where host unreachable goes.** A packet received on `interface` has been queued, and host
unreachable has been sent for its node. It went back to where the packet came from exactly if the
packet's own route leads out of that interface. -/
theorem backToSender_iff {buf : List UInt8} {interface : IfaceName} {ip : UInt32}
    {pkt pkt' : SrPacket} {req : SrArpreq} {p : List UInt8} {name : IfaceName}
    (h : Run step (srInit ifList routingTable) tr sr) (hi : (i, out) ∈ tr)
    (hevent : i.event = .packet buf interface) (he : .enqueue ip pkt ∈ out)
    (hsend : .send (.hostUnreachable req pkt') p name ∈ outputs tr) (hid : pkt'.id = pkt.id) :
    BackToSender (srInit ifList routingTable) buf interface p name ↔
      ∃ rt, srLongestPrefixMatch (srInit ifList routingTable) (ipDst buf) = some rt ∧
        rt.interface = interface := by
  have hC := custody_of_run h
  have hsame : pkt' = pkt := by
    have hmem : (req.ip, pkt') ∈ enqueued (outputs tr) := by
      rw [hC.account.mem_iff]
      exact List.mem_append_right _ (List.mem_filterMap.mpr ⟨_, hsend, rfl⟩)
    have hmem' : (ip, pkt) ∈ enqueued (outputs tr) :=
      mem_enqueued_iff.mpr (mem_outputs.mpr ⟨i, out, hi, he⟩)
    exact (Prod.mk.inj (List.inj_on_of_nodup_map hC.id_nodup hmem hmem' hid)).2
  subst hsame
  obtain ⟨buf', interface', rt, hevent', hlen, hrt, hbuf, hname⟩ := origin_of_enqueue h hi he
  obtain ⟨rfl, rfl⟩ := Event.packet.inj (hevent.symm.trans hevent')
  obtain ⟨iface, after, hiface, hp, rfl⟩ := frame_of_unreachable h hsend
  have hdhost : etherDhost p = etherShost buf := by
    rw [hp, etherDhost_icmpT3Frame, hbuf, load_eq_slice (by simp; omega),
      slice_transitCopy (by omega)]
    rfl
  have hdst : ipDst p = ipSrc buf := by
    rw [hp, ipDst_icmpT3Frame, hbuf, load_eq_slice (by simp; omega), slice_transitCopy (by omega)]
    rfl
  constructor
  · rintro ⟨hback, -⟩
    exact ⟨rt, hrt, hname.symm.trans hback⟩
  · rintro ⟨rt', hrt', rfl⟩
    obtain rfl := Option.some.inj (hrt.symm.trans hrt')
    refine ⟨hname, hdhost, hdst, iface, hname ▸ hiface, ?_, ?_⟩
    · rw [hp, etherShost_icmpT3Frame]
    · rw [hp, ipSrc_icmpT3Frame]

/-- The run of a packet that is never resolved, received on an interface. -/
theorem exists_unresolved (name : IfaceName)
    (h : okAnd (exec step twoPort (arrivalOn name :: fiveTimers)) (fun r =>
      r.2.head?.any (fun x => .enqueue (netAddr 2 2) firstPkt ∈ x.2) ∧
      .send (.hostUnreachable lastReq firstPkt)
        (icmpT3Frame (ethIf 2) firstPkt.buf (fun _ => 0) 3 1) (ethName 2) ∈ outputs r.2) = true) :
    ∃ tr sr out, Run step twoPort tr sr ∧ (arrivalOn name, out) ∈ tr ∧
      .enqueue (netAddr 2 2) firstPkt ∈ out ∧
      .send (.hostUnreachable lastReq firstPkt)
        (icmpT3Frame (ethIf 2) firstPkt.buf (fun _ => 0) 3 1) (ethName 2) ∈ outputs tr := by
  obtain ⟨tr, sr, hrun, hinputs, htest⟩ := exists_run step twoPort _ (fun _ tr =>
      tr.head?.any (fun x => .enqueue (netAddr 2 2) firstPkt ∈ x.2) ∧
      .send (.hostUnreachable lastReq firstPkt)
        (icmpT3Frame (ethIf 2) firstPkt.buf (fun _ => 0) 3 1) (ethName 2) ∈ outputs tr) h
  obtain ⟨hhead, hsend⟩ := of_decide_eq_true htest
  obtain ⟨⟨i, out⟩, rest, rfl, rfl, -⟩ := List.map_eq_cons_iff.mp hinputs
  exact ⟨_, sr, out, hrun, List.mem_cons_self, by simpa using hhead, hsend⟩

/-- A packet whose route leads back out of the interface it came in on. -/
theorem backToSender_twoPort : ∃ tr sr p, Run step twoPort tr sr ∧
    .send (.hostUnreachable lastReq firstPkt) p (ethName 2) ∈ outputs tr ∧
    BackToSender twoPort (udpFrame 2 9 64) (ethName 2) p (ethName 2) := by
  obtain ⟨tr, sr, out, hrun, hi, he, hsend⟩ := exists_unresolved (ethName 2) (by decide +kernel)
  exact ⟨tr, sr, _, hrun, hsend,
    (backToSender_iff hrun hi rfl he hsend rfl).mpr ⟨netRoute, by decide +kernel, rfl⟩⟩

/-- A packet received on `eth1` and routed out of `eth2`: host unreachable leaves on `eth2`. -/
theorem hostUnreachable_elsewhere : ∃ tr sr out p, Run step twoPort tr sr ∧
    (arrivalOn (ethName 1), out) ∈ tr ∧ .enqueue (netAddr 2 2) firstPkt ∈ out ∧
    .send (.hostUnreachable lastReq firstPkt) p (ethName 2) ∈ outputs tr ∧
    ¬ BackToSender twoPort (udpFrame 2 9 64) (ethName 1) p (ethName 2) := by
  obtain ⟨tr, sr, out, hrun, hi, he, hsend⟩ := exists_unresolved (ethName 1) (by decide +kernel)
  refine ⟨tr, sr, out, _, hrun, hi, he, hsend, ?_⟩
  rintro ⟨hname, -⟩
  exact absurd hname (by decide)

end SimpleRouter
