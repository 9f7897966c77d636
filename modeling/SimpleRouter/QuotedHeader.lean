import SimpleRouter.Egress
import SimpleRouter.IcmpHeader

/-!
# The header quoted in ICMP errors

An ICMP error quotes the IP header it is about and the eight bytes behind it. `handle_ip_packet`
works on the received frame in place, and the four errors quote it at different stages:

| error                 | the frame quoted                                         |
|-----------------------|----------------------------------------------------------|
| port unreachable 3/3  | the checksum is zeroed for the check                     |
| time exceeded 11/0    | the checksum is zeroed and the TTL is down to zero       |
| net unreachable 3/0   | rewritten for forwarding                                 |
| host unreachable 3/1  | the queued copy, rewritten for forwarding                |

`quoted_intact_iff` — **when the quoted header is intact**, in every run: in the last two rows, that
is, for a frame that is not to us and whose TTL is not one.
-/

namespace SimpleRouter

open Buffer OnesComplement Machine

/-- The 28 bytes an ICMP error quotes. -/
def icmpData (p : List UInt8) : List UInt8 := slice p 42 28

/-- **The quotation is intact**: the first 28 bytes of the datagram, as received or as rewritten for
forwarding, with a header that adds up. -/
structure Intact (buf p : List UInt8) : Prop where
  /-- What is quoted. -/
  data : icmpData p = slice buf 14 28 ∨ icmpData p = slice (transitCopy buf) 14 28
  /-- Its header adds up. -/
  valid : Valid (slice (icmpData p) 0 20)

section quotation

variable {sr : SrInstance} {buf packet p : List UInt8} {type code : UInt8}
  {ipInterface : Option SrIf}

/-- Equal quotations have equal parts. -/
theorem slice_of_data {q : List UInt8} (h : slice p 14 28 = slice q 14 28) {i n : ℕ}
    (hi : i + n ≤ 28) : slice p (14 + i) n = slice q (14 + i) n := by
  rw [← slice_slice hi, h, slice_slice hi]

/-- A field `cksum` has been stored in is not zero. -/
theorem u16Bytes_cksum_ne (data : List UInt8) : u16Bytes (cksum data) ≠ u16Bytes 0 := by
  intro h
  apply cksum_ne_zero data
  rw [← u16_u16Bytes (cksum data), h]
  rfl

/-- The checksum of a header that is taken is not zero. -/
theorem sum_ne_zero_of_headerOk (h : HeaderOk buf) : slice buf 24 2 ≠ u16Bytes 0 := by
  intro hzero
  apply cksum_ne_zero (ipHdr (put buf 24 (u16Bytes 0)))
  rw [← h, ipSum, hzero]
  rfl

/-- Neither is that of a forwarded copy. -/
theorem sum_ne_zero_transitCopy (h34 : 34 ≤ buf.length) :
    slice (transitCopy buf) 24 2 ≠ u16Bytes 0 := by
  unfold transitCopy rewriteTransit putCksum
  dsimp only
  rw [slice_put_same (length_u16Bytes _) (by simp only [length_put]; omega)]
  exact u16Bytes_cksum_ne _

/-- The rewritten packet is quoted intact. -/
theorem intact_of_transitCopy (h : 42 ≤ buf.length)
    (hdata : icmpData p = slice (transitCopy buf) 14 28) : Intact buf p := by
  refine ⟨.inr hdata, ?_⟩
  rw [hdata, slice_slice (by omega)]
  exact valid_ipHdr_transitCopy (by omega)

/-- A packet whose checksum is zeroed is not. -/
theorem not_intact_of_zero (h34 : 34 ≤ buf.length) (hok : HeaderOk buf)
    (hzero : slice packet 24 2 = u16Bytes 0) (hdata : icmpData p = slice packet 14 28) :
    ¬ Intact buf p := by
  rintro ⟨h | h, -⟩
  · rw [hdata] at h
    apply sum_ne_zero_of_headerOk hok
    rw [← hzero]
    exact (slice_of_data h (show 10 + 2 ≤ 28 by omega)).symm
  · rw [hdata] at h
    apply sum_ne_zero_transitCopy h34
    rw [← hzero]
    exact (slice_of_data h (show 10 + 2 ≤ 28 by omega)).symm

/-- Which of the answers quote the packet intact. -/
theorem intact_iff_of_respond (h42 : 42 ≤ buf.length) (htype : type ≠ 0)
    (h : ipPacketVerdict sr buf = .ok (.respond packet type code ipInterface))
    (hdata : icmpData p = slice packet 14 28) :
    Intact buf p ↔ getDstInterface sr buf = none ∧ ipTtl buf ≠ 1 := by
  have hclear : slice (put buf 24 (u16Bytes 0)) 24 2 = u16Bytes 0 :=
    slice_put_same (length_u16Bytes 0) (by omega)
  obtain ⟨h34, hok, ⟨_, -, -, -, -, rfl, -⟩ | ⟨_, hdst, -, rfl, -⟩ | ⟨hdst, httl, rfl, -⟩ |
    ⟨hdst, httl, -, rfl, -⟩⟩ := verdict_respond_cases h
  · exact absurd rfl htype
  · refine iff_of_false (not_intact_of_zero h34 hok hclear hdata) ?_
    rw [hdst]
    rintro ⟨⟨⟩, -⟩
  · refine iff_of_false (not_intact_of_zero h34 hok ?_ hdata) ?_
    · rw [slice_put_of_disjoint (by simp)]
      exact hclear
    · rintro ⟨-, hne⟩
      exact hne (UInt8.sub_eq_iff_eq_add.mp httl)
  · refine iff_of_true (intact_of_transitCopy h42 hdata) ⟨hdst, ?_⟩
    intro hone
    rw [hone] at httl
    exact httl rfl

end quotation

/-! ### Runs -/

section runs

variable {ifList : List SrIf} {routingTable : List SrRt} {tr : History} {sr : SrInstance}
  {i : Input} {out : List Effect} {p : List UInt8} {name : IfaceName}

/-- An answer sent in a run: the verdict is that of the initial tables. -/
theorem respond_of_run {type code : UInt8} (h : Run step (srInit ifList routingTable) tr sr)
    (hi : (i, out) ∈ tr) (he : .send (.icmpResponse type code) p name ∈ out) :
    ∃ sr' buf interface packet ipInterface outInterface ip,
      i.event = .packet buf interface ∧ sr'.ifList = ifList ∧
      ipPacketVerdict sr' buf = .ok (.respond packet type code ipInterface) ∧
      p = icmpResponseFrame outInterface ip packet i.env.after type code := by
  refine runInv_inductive.output (Q := fun i e => ∀ type code p name,
    e = .send (.icmpResponse type code) p name →
    ∃ sr' buf interface packet ipInterface outInterface ip,
      i.event = .packet buf interface ∧ sr'.ifList = ifList ∧
      ipPacketVerdict sr' buf = .ok (.respond packet type code ipInterface) ∧
      p = icmpResponseFrame outInterface ip packet i.env.after type code)
    step_refines ?_ h hi he _ _ _ _ rfl
  rintro tr i out sr o sr' hI ha e he type code p name rfl
  cases ha.emits he with
  | respond hevent htype hverdict hout =>
      exact ⟨sr, _, _, _, _, _, _, hevent, hI.ifList_eq, hverdict, rfl⟩

/-- A packet answered with host unreachable was received earlier, and queued rewritten. -/
theorem received_of_unreachable {req : SrArpreq} {pkt : SrPacket}
    (h : Run step (srInit ifList routingTable) tr sr)
    (hsend : .send (.hostUnreachable req pkt) p name ∈ outputs tr) :
    ∃ j out' buf interface, (j, out') ∈ tr ∧ .enqueue req.ip pkt ∈ out' ∧
      j.event = .packet buf interface ∧ pkt.buf = transitCopy buf := by
  have hmem : (req.ip, pkt) ∈ enqueued (outputs tr) := by
    rw [(custody_of_run h).account.mem_iff]
    exact List.mem_append_right _ (List.mem_filterMap.mpr ⟨_, hsend, rfl⟩)
  obtain ⟨j, out', hj, he⟩ := mem_outputs.mp (mem_enqueued_iff.mp hmem)
  obtain ⟨buf, interface, -, hevent, -, -, hbuf, -⟩ := origin_of_enqueue h hj he
  exact ⟨j, out', buf, interface, hj, he, hevent, hbuf⟩

/-- **When the quoted header is intact**, in every run. An error that answers a received frame of at
least 42 bytes quotes it intact exactly if the frame is not to us and its TTL is not one; host
unreachable quotes the frame received as it was rewritten for forwarding. -/
theorem quoted_intact_iff (h : Run step (srInit ifList routingTable) tr sr) :
    (∀ i out buf interface type code p name, (i, out) ∈ tr → i.event = .packet buf interface →
      42 ≤ buf.length → type ≠ 0 → .send (.icmpResponse type code) p name ∈ out →
        (Intact buf p ↔
          getDstInterface (srInit ifList routingTable) buf = none ∧ ipTtl buf ≠ 1)) ∧
    ∀ req pkt p name, .send (.hostUnreachable req pkt) p name ∈ outputs tr →
      ∃ j out buf interface, (j, out) ∈ tr ∧ .enqueue req.ip pkt ∈ out ∧
        j.event = .packet buf interface ∧ (42 ≤ buf.length → Intact buf p) := by
  constructor
  · intro i out buf interface type code p name hi hevent h42 htype he
    obtain ⟨sr', buf', _, packet, ipInterface, outInterface, ip, hevent', hif, hverdict, hp⟩ :=
      respond_of_run h hi he
    obtain ⟨rfl, rfl⟩ := Event.packet.inj (hevent.symm.trans hevent')
    have hdst : getDstInterface (srInit ifList routingTable) buf = getDstInterface sr' buf := by
      unfold getDstInterface
      rw [hif]
      rfl
    rw [hdst]
    refine intact_iff_of_respond h42 htype hverdict ?_
    rw [hp, icmpData, slice_icmpResponseFrame_quoted htype]
    exact load_eq_slice (by rw [(length_of_respond hverdict).1]; exact h42)
  · intro req pkt p name hsend
    obtain ⟨j, out, buf, interface, hj, he, hevent, hbuf⟩ := received_of_unreachable h hsend
    obtain ⟨iface, after, -, hp, -⟩ := frame_of_unreachable h hsend
    refine ⟨j, out, buf, interface, hj, he, hevent, fun h42 => intact_of_transitCopy h42 ?_⟩
    rw [hp, icmpData, slice_icmpT3Frame_quoted, hbuf]
    exact load_eq_slice (by rw [length_transitCopy]; exact h42)

end runs

/-- Net unreachable for a packet without a route, and host unreachable for a queued one. -/
theorem quoted_intact_twoPort :
    (∃ tr sr p, Run step twoPort tr sr ∧
      .send (.icmpResponse 3 0) p (ethName 1) ∈ outputs tr ∧ Intact (udpFrame 3 9 64) p) ∧
    ∃ tr sr p, Run step twoPort tr sr ∧
      .send (.hostUnreachable lastReq firstPkt) p (ethName 2) ∈ outputs tr ∧
      ∃ j out buf interface, (j, out) ∈ tr ∧ .enqueue (netAddr 2 2) firstPkt ∈ out ∧
        j.event = .packet buf interface ∧ (42 ≤ buf.length → Intact buf p) := by
  constructor
  · have hstep : step twoPort ⟨stillEnv 1, .packet (udpFrame 3 9 64) (ethName 1)⟩ =
        .ok (twoPort, [_]) := rfl
    have hrun := Run.snoc .nil hstep
    refine ⟨_, _, _, hrun, List.mem_singleton_self _, ?_⟩
    refine ((quoted_intact_iff hrun).1 _ _ _ _ 3 0 _ _ (List.mem_singleton_self _) rfl ?_ ?_
      (List.mem_singleton_self _)).mpr ?_
    · decide +kernel
    · decide
    · decide +kernel
  · obtain ⟨tr, sr, out, hrun, -, -, hsend⟩ := exists_unresolved (ethName 1) (by decide +kernel)
    exact ⟨tr, sr, _, hrun, hsend, (quoted_intact_iff hrun).2 lastReq firstPkt _ _ hsend⟩

/-- Port unreachable quotes a checksum of zero. -/
theorem quoted_without_checksum : ∃ tr sr p, Run step twoPort tr sr ∧
    .send (.icmpResponse 3 3) p (ethName 1) ∈ outputs tr ∧ HeaderOk (udpFrame 1 1 64) ∧
    (udpFrame 1 1 64).length = 42 ∧ ¬ Valid (slice (icmpData p) 0 20) ∧
    ¬ Intact (udpFrame 1 1 64) p := by
  have hstep : step twoPort ⟨stillEnv 1, .packet (udpFrame 1 1 64) (ethName 1)⟩ =
      .ok (twoPort, [_]) := rfl
  have hinvalid : ¬ Valid (slice (icmpData (icmpResponseFrame (ethIf 1) (netAddr 1 1)
      (put (udpFrame 1 1 64) 24 (u16Bytes 0)) (fun _ => 0) 3 3)) 0 20) := by
    decide +kernel
  refine ⟨_, _, _, .snoc .nil hstep, List.mem_singleton_self _, by decide +kernel,
    by decide +kernel, hinvalid, fun h => hinvalid h.valid⟩

end SimpleRouter
