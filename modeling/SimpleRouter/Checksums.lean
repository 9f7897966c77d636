import SimpleRouter.Forwarding

/-!
# The checksums of what is sent

Every builder of the router ends with the same idiom, so every IP header it emits adds up: the
header of a forwarded packet because `transitCopy` recomputed it, that of a flushed packet because
it was recomputed before the packet was queued and the flush loop changes nothing behind the
Ethernet header, those of the ICMP messages because their builders compute them last.

* `checksums_of_run` — **every emitted IP frame has a valid header checksum, and every ICMP message
  the router generates a valid ICMP checksum**, in every run on frames of 42 to 9976 bytes.
-/

namespace SimpleRouter

open Buffer OnesComplement Machine

/-- The call sends an IP packet. -/
def Caller.SendsIp : Caller → Prop
  | .arpReply => False
  | .arpRequest _ _ => False
  | _ => True

/-- The call sends an ICMP message the router generates. -/
def Caller.SendsIcmp : Caller → Prop
  | .icmpResponse _ _ => True
  | .hostUnreachable _ _ => True
  | _ => False

/-- A frame of the sizes the socket delivers. -/
def Input.SizeOk (i : Input) : Prop :=
  ∀ buf interface, i.event = .packet buf interface → 42 ≤ buf.length ∧ buf.length ≤ 9976

/-- **The frame adds up**: its IP header if it has one, and its ICMP part if the router made it. -/
structure ChecksumsOk (caller : Caller) (p : List UInt8) : Prop where
  /-- An IP frame has the 20 bytes of a header, and they add up. -/
  ip : (∃ after, ethertype p after = 0x0800) ∨ caller.SendsIp →
    (ipHdr p).length = 20 ∧ Valid (ipHdr p)
  /-- The ICMP part of a message the router made adds up. -/
  icmp : caller.SendsIcmp → Valid (icmpPart p)

section emits

variable {ifList : List SrIf} {routingTable : List SrRt} {tr : History} {sr : SrInstance}
  {i : Input} {p : List UInt8} {caller : Caller} {name : IfaceName}

/-- The header is 20 bytes. -/
theorem length_ipHdr (h : 34 ≤ p.length) : (ipHdr p).length = 20 := by
  rw [ipHdr, length_slice]
  omega

/-- The copy of a transit frame adds up, whatever addresses are put in front. -/
theorem checksumsOk_transit {buf : List UInt8} {shost dhost : EtherAddr} (h : 34 ≤ buf.length)
    (hicmp : ¬ caller.SendsIcmp) :
    ChecksumsOk caller (rewriteEther (transitCopy buf) shost dhost) where
  ip := by
    intro _
    refine ⟨length_ipHdr (by simpa using h), ?_⟩
    rw [ipHdr, slice_rewriteEther (by omega)]
    exact valid_ipHdr_transitCopy h
  icmp := fun hc => absurd hc hicmp

/-- An ARP frame is no IP frame. -/
theorem checksumsOk_arp (htype : ∀ after, ethertype p after = 0x0806) (hip : ¬ caller.SendsIp)
    (hicmp : ¬ caller.SendsIcmp) : ChecksumsOk caller p where
  ip := by
    rintro (⟨after, hafter⟩ | hc)
    · rw [htype] at hafter
      exact absurd hafter (by decide)
    · exact absurd hc hip
  icmp := fun hc => absurd hc hicmp

/-- Whatever an action sends adds up. -/
theorem NextHopInv.checksumsOk (hN : NextHopInv ifList routingTable tr sr) (hsize : i.SizeOk)
    (h : Emits i sr (.send caller p name)) : ChecksumsOk caller p := by
  cases h with
  | respond hevent htype hverdict hout =>
      obtain ⟨hlen, -⟩ := length_of_respond hverdict
      obtain ⟨hmin, hmax⟩ := hsize _ _ hevent
      refine ⟨fun _ => ⟨length_ipHdr ?_, valid_ipHdr_icmpResponseFrame (by omega)⟩,
        fun _ => valid_icmpPart_icmpResponseFrame (by omega) (by omega)⟩
      rw [length_icmpResponseFrame]
      split_ifs <;> omega
  | forward hevent htype hverdict hiface =>
      obtain ⟨ht, -, -, -, rfl⟩ := verdict_forward_iff.mp hverdict
      exact checksumsOk_transit ht.1 id
  | reply hevent htype hlen hiface =>
      exact checksumsOk_arp (ethertype_arpReplyFrame hlen) id id
  | flush hreply hreq hpkt hiface =>
      obtain ⟨buf, rt, ht, -, -, hbuf, -⟩ := hN.routed_of_mem hreq hpkt
      rw [hbuf]
      exact checksumsOk_transit ht.1 id
  | transmit => exact checksumsOk_arp ethertype_createArpRequest id id
  | giveUp =>
      exact ⟨fun _ => ⟨length_ipHdr (by simp), valid_ipHdr_icmpT3Frame⟩,
        fun _ => valid_icmpPart_icmpT3Frame⟩

end emits

/-- **Every emitted IP packet carries valid checksums**, in every run in which the frames received
are 42 to 9976 bytes long. -/
theorem checksums_of_run {ifList : List SrIf} {routingTable : List SrRt} {tr : History}
    {sr : SrInstance} {i : Input} {out : List Effect} {caller : Caller} {p : List UInt8}
    {name : IfaceName} (h : Run step (srInit ifList routingTable) tr sr)
    (hsize : ∀ x ∈ tr, x.1.SizeOk) (hi : (i, out) ∈ tr) (hsend : .send caller p name ∈ out) :
    ChecksumsOk caller p := by
  refine nextHopInv_inductive.output (Q := fun i e => i.SizeOk → ∀ caller p name,
    e = .send caller p name → ChecksumsOk caller p)
    step_refines ?_ h hi hsend (hsize _ hi) _ _ _ rfl
  rintro tr i out sr o sr' hN ha e he hsize caller p name rfl
  exact hN.checksumsOk hsize (ha.emits he)

/-- A run in which a packet is queued and flushed. -/
theorem checksums_twoPort : ∃ tr sr i out p, Run step twoPort tr sr ∧ (i, out) ∈ tr ∧
    .send (.flush firstReq firstPkt) p (ethName 2) ∈ out ∧
    ChecksumsOk (.flush firstReq firstPkt) p := by
  obtain ⟨tr, sr, hrun, hinputs, htest⟩ := exists_run step twoPort
    [firstArrival, replyArrival (ethName 2)]
    (fun _ tr => .send (.flush firstReq firstPkt)
      (rewriteEther (transitCopy (udpFrame 2 9 64)) (mac 2) (mac 22)) (ethName 2) ∈ outputs tr)
    (by decide +kernel)
  obtain ⟨i, out, hi, hsend⟩ := mem_outputs.mp (of_decide_eq_true htest)
  refine ⟨tr, sr, i, out, _, hrun, hi, hsend, checksums_of_run hrun ?_ hi hsend⟩
  intro x hx buf interface hevent
  have hx : x.1 ∈ [firstArrival, replyArrival (ethName 2)] := hinputs ▸ List.mem_map_of_mem hx
  rcases List.mem_pair.mp hx with h | h <;> rw [h] at hevent <;> cases hevent <;> decide +kernel

end SimpleRouter
