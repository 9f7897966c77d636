import SimpleRouter.Waiting
import SimpleRouter.Learning
import SimpleRouter.Forwarding

/-!
# The ARP exchange between two routers

One router asks, another one answers, and the first flushes what has waited for the answer. Both run
the same program: the request is what `create_arp_request` builds and the reply what
`handle_arp_packet` makes of it, so each side has to find in the frame of the other what it needs.

* `arOp_createArpRequest`, `arTip_createArpRequest`, `arOp_arpReplyFrame`, `arSip_arpReplyFrame`,
  `arSha_arpReplyFrame` — what the receiver reads in the two frames.
* `step_request` — the owner of the address asked for answers, whatever state it is in.
* `RequestsFor` — an ARP request that has been sent for a request of the queue asks for its address.
* `arp_exchange` — **an exchange completes**: whatever has happened in between, when the answer of
  the owner comes in while the request is still on the queue, the request leaves it and all its
  packets are sent to the owner, in the order of the list.
-/

namespace SimpleRouter

open Buffer Machine

/-! ### What the receiver reads -/

section fields

variable {iface : SrIf} {ip : UInt32} {packet : List UInt8} (after : ℕ → UInt8)

/-- The frame is a request. -/
theorem arOp_createArpRequest : arOp (createArpRequest iface ip) after = 1 := by
  rw [arOp, load_eq_slice (by simp)]
  unfold createArpRequest
  simp (disch := simp) only [slice_put_of_disjoint, slice_put_same]
  decide

/-- The frame asks for the address. -/
theorem arTip_createArpRequest : arTip (createArpRequest iface ip) after = ip := by
  rw [arTip, load_eq_slice (by simp)]
  unfold createArpRequest
  simp (disch := simp) only [slice_put_same, u32_u32Bytes]

/-- The reply says it is one. -/
theorem arOp_arpReplyFrame (h : 42 ≤ packet.length) :
    arOp (arpReplyFrame iface packet) after = 2 := by
  have hquoted : (slice packet 14 28).length = 28 := by
    rw [length_slice]
    omega
  rw [arOp, load_eq_slice (by rw [length_arpReplyFrame]; omega), arpReplyFrame]
  simp (disch := simp) only [slice_put_of_disjoint]
  rw [slice_put_same (length_u16Bytes _) (by simp only [length_put, List.length_replicate]; omega)]
  decide

/-- It comes from the address asked for. -/
theorem arSip_arpReplyFrame (h : 42 ≤ packet.length) :
    arSip (arpReplyFrame iface packet) after = iface.ip := by
  rw [arSip, load_eq_slice (by rw [length_arpReplyFrame]; omega), arpReplyFrame]
  simp (disch := simp) only [slice_put_of_disjoint]
  rw [slice_put_same (length_u32Bytes _) (by simp only [length_put, List.length_replicate]; omega),
    u32_u32Bytes]

/-- And gives the hardware address of the interface. -/
theorem arSha_arpReplyFrame (h : 42 ≤ packet.length) :
    arSha (arpReplyFrame iface packet) after = iface.addr := by
  apply EtherAddr.ext
  change load (arpReplyFrame iface packet) after 22 6 = iface.addr.bytes
  rw [load_eq_slice (by rw [length_arpReplyFrame]; omega), arpReplyFrame]
  simp (disch := simp) only [slice_put_of_disjoint]
  exact slice_put_same iface.addr.length_eq
    (by simp only [length_put, List.length_replicate]; omega)

end fields

/-! ### The owner answers -/

section answer

variable {sr : SrInstance} {env : Env} {name : IfaceName} {asking owner : SrIf}

/-- **The owner of an address answers a request for it**, out of the interface the request came in
on, and nothing else changes. -/
theorem step_request (howner : srGetInterface sr name = some owner) :
    step sr ⟨env, .packet (createArpRequest asking owner.ip) name⟩ =
      .ok (sr, [.send .arpReply (arpReplyFrame owner (createArpRequest asking owner.ip))
        name]) := by
  change srHandlepacket sr env (createArpRequest asking owner.ip) name = _
  unfold srHandlepacket
  rw [ethertype_createArpRequest, if_neg (by decide), if_pos rfl]
  unfold handleArpPacket
  rw [if_pos (arOp_createArpRequest _), howner]
  simp only [deref, bind, Except.bind, arTip_createArpRequest, if_true, length_createArpRequest,
    lt_irrefl, if_false]

/-- The answer is an ARP reply of the owner. -/
theorem isReply_arpReplyFrame {env' : Env} {interface : IfaceName} :
    Input.IsReply ⟨env', .packet (arpReplyFrame owner (createArpRequest asking owner.ip)) interface⟩
      interface owner.ip owner.addr := by
  have hlen : 42 ≤ (createArpRequest asking owner.ip).length := length_createArpRequest.ge
  exact ⟨_, rfl, ethertype_arpReplyFrame hlen _, arOp_arpReplyFrame _ hlen,
    arSip_arpReplyFrame _ hlen, arSha_arpReplyFrame _ hlen⟩

end answer

/-- A router that waits for an ARP reply takes the request off the queue, and sends what it held. -/
theorem step_reply_found {sr' : SrInstance} {i : Input} {interface : IfaceName} {ip : UInt32}
    {sha : EtherAddr} {req : SrArpreq} {iface : SrIf} (hI : CacheInv sr.cache)
    (hreply : i.IsReply interface ip sha)
    (hfind : Keyed.find SrArpreq.ip ip sr.cache.requests = some req)
    (hiface : srGetInterface sr interface = some iface) {out : List Effect}
    (h : step sr i = .ok (sr', out)) :
    out = req.packets.map (fun pkt =>
        .send (.flush req pkt) (rewriteEther pkt.buf iface.addr sha) pkt.iface) ∧
      sr'.cache.requests = Keyed.erase SrArpreq.ip ip sr.cache.requests := by
  obtain ⟨buf, hevent, htype, hop, rfl, rfl⟩ := hreply
  have harp : handleArpPacket sr i.env buf interface = .ok (sr', out) := by
    unfold step at h
    simp only [hevent, srHandlepacket, htype] at h
    exact h
  rcases handleArpPacket_reply hop harp with ⟨hnone, -, -⟩ | ⟨req', hfind', hout, rfl⟩
  · rw [hnone] at hfind
    cases hfind
  · obtain rfl := Option.some.inj (hfind.symm.trans hfind')
    refine ⟨?_, requests_flush hI hfind⟩
    have hmap := filterMap_rounds (g := some) hout (f := fun pkt =>
      .send (.flush req pkt) (rewriteEther pkt.buf iface.addr (arSha buf i.env.after)) pkt.iface) ?_
    · rwa [List.filterMap_some] at hmap
    · rintro pkt e ⟨iface', hiface', rfl⟩
      rw [Option.some.inj (hiface'.symm.trans hiface)]

/-! ### What has been asked -/

/-- A frame sent for a request of the queue asks for the address of the request, from an interface
of the router. -/
def RequestsFor (ifList : List SrIf) (tr : History) (sr : SrInstance) : Prop :=
  RunInv ifList sr.routingTable sr ∧ (∀ q now p name,
      .send (.arpRequest q now) p name ∈ outputs tr → q < sr.cache.reqSeq) ∧
    ∀ q now p name, .send (.arpRequest q now) p name ∈ outputs tr →
      ∀ r ∈ sr.cache.requests, r.id = q →
        ∃ iface, srGetInterface sr name = some iface ∧ p = createArpRequest iface r.ip

section asked

variable {ifList : List SrIf} {routingTable : List SrRt} {tr : History} {i : Input}
  {sr sr' : SrInstance} {out o : List Effect}

/-- A request keeps the address it asks for. -/
theorem Descends.ip_eq {r : SrArpreq} (h : Descends i sr r) (hid : r.id < sr.cache.reqSeq) :
    ∃ r₀ ∈ sr.cache.requests, r₀.id = r.id ∧ r₀.ip = r.ip := by
  cases h with
  | kept hr => exact ⟨r, hr, rfl, rfl⟩
  | pushed hr₀ _ heq =>
      subst heq
      exact ⟨_, hr₀, rfl, rfl⟩
  | made _ heq =>
      rw [heq] at hid
      exact absurd hid (lt_irrefl _)
  | resent hr₀ heq =>
      subst heq
      exact ⟨_, hr₀, rfl, rfl⟩

/-- What an action sends as an ARP request. -/
theorem Action.arpRequest_cases {q : ℕ} {now : ℤ} {p : List UInt8} {name : IfaceName}
    (h : Action i sr o sr') (he : .send (.arpRequest q now) p name ∈ o) :
    ∃ req ∈ sr.cache.requests, req.id = q ∧
      ∃ iface, srGetInterface sr name = some iface ∧ p = createArpRequest iface req.ip := by
  cases h.emits he with
  | transmit hreq _ hiface => exact ⟨_, hreq, rfl, _, hiface, rfl⟩

/-- An action keeps it. -/
theorem RequestsFor.action (hR : RequestsFor ifList (tr ++ [(i, out)]) sr)
    (h : Action i sr o sr') : RequestsFor ifList (tr ++ [(i, out ++ o)]) sr' := by
  obtain ⟨hI, hold, hframes⟩ := hR
  have hsplit : outputs (tr ++ [(i, out ++ o)]) = outputs (tr ++ [(i, out)]) ++ o := by
    simp
  have hget : srGetInterface sr' = srGetInterface sr := by
    funext name
    rw [srGetInterface, srGetInterface, h.frame.1]
  refine ⟨⟨(hI.action h).cache, (hI.action h).ifList_eq, rfl⟩, ?_, ?_⟩
  · intro q now p name he
    rw [hsplit] at he
    rcases List.mem_append.mp he with he | he
    · exact (hold q now p name he).trans_le h.seq_le.1
    · obtain ⟨req, hreq, rfl, -⟩ := h.arpRequest_cases he
      exact (hI.cache.id_lt req hreq).trans_le h.seq_le.1
  · rintro q now p name he r hr rfl
    rw [hsplit] at he
    rw [hget]
    rcases List.mem_append.mp he with he | he
    · obtain ⟨r₀, hr₀, hid, hip⟩ :=
        (h.descends hI.cache hr).ip_eq (hold _ now p name he)
      rw [← hip]
      exact hframes _ now p name he r₀ hr₀ hid
    · obtain ⟨req, hreq, hid, hframe⟩ := h.arpRequest_cases he
      obtain ⟨r₀, hr₀, hid₀, hip⟩ :=
        (h.descends hI.cache hr).ip_eq (hid ▸ hI.cache.id_lt req hreq)
      have hsame : r₀ = req :=
        List.inj_on_of_nodup_map hI.cache.id_nodup hr₀ hreq (hid₀.trans hid.symm)
      rw [← hip, hsame]
      exact hframe

/-- It holds in every run. -/
theorem requestsFor_of_run (h : Run step (srInit ifList routingTable) tr sr) :
    RequestsFor ifList tr sr := by
  have hind : Inductive Action (srInit ifList routingTable) (RequestsFor ifList) := by
    constructor
    case init =>
      refine ⟨runInv_inductive.init, ?_, ?_⟩
      · rintro q now p name ⟨⟩
      · rintro q now p name ⟨⟩
    case input =>
      intro tr sr i hR
      have hsame : outputs (tr ++ [(i, [])]) = outputs tr := by simp
      rw [RequestsFor, hsame]
      exact hR
    case action =>
      intro tr i out sr o sr' hR h
      exact hR.action h
  exact hind.run step_refines h

end asked

/-! ### The exchange -/

/-- What an answer flushes: all packets of the request, in order, from the interface it came in on
to the hardware address it gave. -/
def flushFrames (asking owner : SrIf) (req : SrArpreq) : List Effect :=
  req.packets.map fun pkt =>
    .send (.flush req pkt) (rewriteEther pkt.buf asking.addr owner.addr) pkt.iface

/-- **An exchange completes.** A router has, in any run, sent the ARP request `p` out of `name` for
a request that is still on its queue; an interface of another router, in any state, has the address
asked for. Then the other router answers `p`, with a frame that passes its address check, and
leaves everything else as it is; and the first, when it receives the answer where it has asked,
sends all packets that wait to the hardware address of the other, and the request is gone. -/
theorem arp_exchange {ifList : List SrIf} {routingTable : List SrRt} {tr : History}
    {sr other : SrInstance} {req : SrArpreq} {now : ℤ} {p : List UInt8} {name name' : IfaceName}
    {owner : SrIf} (h : Run step (srInit ifList routingTable) tr sr)
    (hsent : .send (.arpRequest req.id now) p name ∈ outputs tr)
    (hreq : req ∈ sr.cache.requests) (howner : srGetInterface other name' = some owner)
    (hip : owner.ip = req.ip) (env env' : Env) :
    ∃ reply, step other ⟨env', .packet p name'⟩ = .ok (other, [.send .arpReply reply name']) ∧
      srEtherAddrsMatchInterface other reply name' = true ∧
      ∃ sr' asking, srGetInterface sr name = some asking ∧
        step sr ⟨env, .packet reply name⟩ = .ok (sr', flushFrames asking owner req) ∧
        ∀ r ∈ sr'.cache.requests, r.id ≠ req.id ∧ r.ip ≠ req.ip := by
  obtain ⟨hI, -, hframes⟩ := requestsFor_of_run h
  obtain ⟨asking, hasking, rfl⟩ := hframes _ _ _ _ hsent req hreq rfl
  rw [← hip]
  have hlen : 42 ≤ (createArpRequest asking owner.ip).length := length_createArpRequest.ge
  refine ⟨arpReplyFrame owner (createArpRequest asking owner.ip), step_request howner, ?_, ?_⟩
  · unfold srEtherAddrsMatchInterface
    simp only [howner, etherShost_arpReplyFrame hlen, decide_true]
  have hreply : Input.IsReply ⟨env, .packet (arpReplyFrame owner
      (createArpRequest asking owner.ip)) name⟩ name owner.ip owner.addr := isReply_arpReplyFrame
  have hfind : Keyed.find SrArpreq.ip owner.ip sr.cache.requests = some req :=
    (Keyed.find_eq_some_iff hI.cache.ip_nodup).mpr ⟨hreq, hip.symm⟩
  obtain ⟨sr', out, hstep⟩ := step_reply_ok hreply hasking
  obtain ⟨rfl, hrequests⟩ := step_reply_found hI.cache hreply hfind hasking hstep
  refine ⟨sr', asking, hasking, hstep, fun r hr => ?_⟩
  rw [hrequests] at hr
  obtain ⟨hr, hne⟩ := (Keyed.mem_erase_iff hI.cache.ip_nodup).mp hr
  refine ⟨fun hid => hne ?_, hne⟩
  rw [List.inj_on_of_nodup_map hI.cache.id_nodup hr hreq hid, hip]

/-- The next hop of `twoPort`, a router with one interface. -/
def nextHop : SrInstance := srInit [⟨ethName 1, mac 22, netAddr 2 2⟩] []

/-- `twoPort` queues a packet and asks, its next hop answers, and the packet is sent to it. -/
theorem arp_exchange_twoPort : ∃ tr sr p, Run step twoPort tr sr ∧
    .send (.arpRequest 0 1) p (ethName 2) ∈ outputs tr ∧
    ∃ reply, step nextHop ⟨stillEnv 1, .packet p (ethName 1)⟩ =
        .ok (nextHop, [.send .arpReply reply (ethName 1)]) ∧
      ∃ sr', step sr ⟨stillEnv 2, .packet reply (ethName 2)⟩ =
        .ok (sr', [.send (.flush firstReq firstPkt)
          (rewriteEther firstPkt.buf (mac 2) (mac 22)) (ethName 2)]) := by
  obtain ⟨tr, sr, hrun, -, htest⟩ := exists_run step twoPort [firstArrival]
    (fun sr tr => sr.cache.requests = [firstReq] ∧ sr.ifList = [ethIf 1, ethIf 2] ∧
      .send (.arpRequest 0 1) (createArpRequest (ethIf 2) (netAddr 2 2)) (ethName 2) ∈ outputs tr)
    (by decide +kernel)
  obtain ⟨hrequests, hif, hsent⟩ := of_decide_eq_true htest
  obtain ⟨reply, hanswer, -, sr', asking, hasking, hflush, -⟩ := arp_exchange hrun
    (show .send (.arpRequest firstReq.id 1) _ (ethName 2) ∈ outputs tr from hsent)
    (hrequests ▸ List.mem_singleton_self firstReq)
    (show srGetInterface nextHop (ethName 1) = some ⟨ethName 1, mac 22, netAddr 2 2⟩ from rfl) rfl
    (stillEnv 2) (stillEnv 1)
  have hethIf : asking = ethIf 2 := by
    rw [srGetInterface, hif] at hasking
    exact (Option.some.inj hasking).symm
  subst hethIf
  exact ⟨tr, sr, _, hrun, hsent, reply, hanswer, sr', hflush⟩

end SimpleRouter
