import SimpleRouter.Transit

/-!
# Echo replies

The reply to an echo request involves two interfaces: its source address is that of the interface
addressed, which can be any of the router's, and it leaves with the hardware address of the
interface the request came in on. The request is changed in place before it is copied, in the two
checksum fields.

Before the reply is sent, `send_icmp_response` prints a field through a pointer it never assigned.

* `answersEcho_iff` — **an echo request to one of the router's addresses is answered with its echo
  reply, and with nothing else, exactly if that pointer can be read**.
* `pingFrame_unanswered` — where it cannot, the router stops and no reply is sent.
-/

namespace SimpleRouter

open Buffer

/-- The ICMP check of `handle_ip_packet` accepts the frame. -/
def IcmpOk (buf : List UInt8) : Prop :=
  u16 (slice buf 36 2) = cksum (icmpPart (put buf 36 (u16Bytes 0)))

instance (buf : List UInt8) : Decidable (IcmpOk buf) := inferInstanceAs (Decidable (_ = _))

/-- **An echo request** for one of the router's addresses, in a frame that has its ICMP header. -/
structure EchoRequest (sr : SrInstance) (env : Env) (buf : List UInt8) : Prop where
  /-- The frame has an ICMP header. -/
  length : 38 ≤ buf.length
  /-- It carries an IP packet. -/
  ethertype : ethertype buf env.after = 0x0800
  /-- The header check accepts it. -/
  headerOk : HeaderOk buf
  /-- It is addressed to one of the interfaces. -/
  toUs : ∃ iface ∈ sr.ifList, iface.ip = ipDst buf
  /-- The protocol is ICMP. -/
  icmp : ipP buf = 1
  /-- The type is echo request. -/
  type : icmpType buf = 8
  /-- The ICMP check accepts it. -/
  icmpOk : IcmpOk buf

/-- **The echo reply** to a request received on `iface`. -/
structure EchoReply (iface : SrIf) (request reply : List UInt8) : Prop where
  /-- It is as long as the request. -/
  length : reply.length = request.length
  /-- It comes from the address the request was for. -/
  src : ipSrc reply = ipDst request
  /-- It goes to the address the request came from. -/
  dst : ipDst reply = ipSrc request
  /-- `INIT_TTL`. -/
  ttl : ipTtl reply = 255
  /-- The type is echo reply. -/
  type : icmpType reply = 0
  /-- The code. -/
  code : icmpCode reply = 0
  /-- Behind the checksum it is the request. -/
  rest : reply.drop 38 = request.drop 38
  /-- It goes back to the request's hardware address. -/
  dhost : etherDhost reply = etherShost request
  /-- It comes from the receiving interface's. -/
  shost : etherShost reply = iface.addr.bytes

section reply

variable {sr : SrInstance} {env : Env} {buf : List UInt8} {interface : IfaceName}

/-- The request as it is copied: both checksum fields are zeroed. -/
def clearSums (buf : List UInt8) : List UInt8 := put (put buf 24 (u16Bytes 0)) 36 (u16Bytes 0)

/-- Clearing the sums keeps the length. -/
@[simp] theorem length_clearSums (buf : List UInt8) : (clearSums buf).length = buf.length := by
  simp [clearSums]

/-- Everything but the sums stays. -/
theorem getElem?_clearSums {k : ℕ} (hk : (k < 24 ∨ 26 ≤ k) ∧ (k < 36 ∨ 38 ≤ k)) :
    (clearSums buf)[k]? = buf[k]? := by
  unfold clearSums
  rw [getElem?_put_of_outside (by rw [length_u16Bytes]; omega),
    getElem?_put_of_outside (by rw [length_u16Bytes]; omega)]

/-- A window clear of both fields is copied. -/
theorem slice_clearSums {i n : ℕ} (h : i + n ≤ 24 ∨ 26 ≤ i ∧ (i + n ≤ 36 ∨ 38 ≤ i)) :
    slice (clearSums buf) i n = slice buf i n := by
  apply List.ext_getElem?
  intro j
  rw [getElem?_slice, getElem?_slice]
  split_ifs with hj
  · exact getElem?_clearSums (by omega)
  · rfl

/-- The checksum of the IP header is not part of the ICMP message. -/
theorem icmpPart_clearSums (buf : List UInt8) :
    icmpPart (clearSums buf) = icmpPart (put buf 36 (u16Bytes 0)) := by
  unfold icmpPart
  rw [length_clearSums, length_put]
  apply List.ext_getElem?
  intro j
  rw [getElem?_slice, getElem?_slice]
  have hcell : (put buf 24 (u16Bytes 0))[34 + j]? = buf[34 + j]? :=
    getElem?_put_of_outside (by rw [length_u16Bytes]; omega)
  unfold clearSums
  rw [getElem?_put (put buf 24 (u16Bytes 0)), hcell, getElem?_put buf, length_put]

/-- A packet for one of the router's addresses has an interface it is for. -/
theorem getDstInterface_of_toUs (h : ∃ iface ∈ sr.ifList, iface.ip = ipDst buf) :
    ∃ addressed, addressed.ip = ipDst buf ∧ getDstInterface sr buf = some addressed := by
  obtain ⟨iface, hmem, hip⟩ := h
  obtain ⟨addressed, hdst⟩ := Option.isSome_iff_exists.mp
    (List.find?_isSome.mpr ⟨iface, hmem, decide_eq_true hip⟩ :
      (getDstInterface sr buf).isSome)
  refine ⟨addressed, ?_, hdst⟩
  simpa using List.find?_some hdst

/-- The verdict on ICMP to one of the router's addresses. -/
theorem verdict_of_icmp {addressed : SrIf} (h : 38 ≤ buf.length) (hok : HeaderOk buf)
    (hdst : getDstInterface sr buf = some addressed) (hp : ipP buf = 1) :
    ipPacketVerdict sr buf = .ok (if IcmpOk buf ∧ icmpType buf = 8 then
      .respond (clearSums buf) 0 0 (some addressed) else .drop) := by
  have hsum : u16 (slice (put buf 24 (u16Bytes 0)) 36 2) = u16 (slice buf 36 2) := by
    rw [slice_put_of_disjoint (.inr (by rw [length_u16Bytes]; omega))]
  have hcheck : IcmpOk buf ↔ cksum (icmpPart (clearSums buf)) = u16 (slice buf 36 2) := by
    rw [icmpPart_clearSums]
    exact eq_comm
  have htype : icmpType (clearSums buf) = icmpType buf := by
    rw [icmpType, List.getD_eq_getElem?_getD, getElem?_clearSums (by omega),
      ← List.getD_eq_getElem?_getD]
    rfl
  rw [verdict_of_local (by omega) hok hdst, localVerdict, ipP_clearSum, if_pos hp,
    if_neg (by rw [length_put]; omega), hsum]
  change (if cksum (icmpPart (clearSums buf)) ≠ u16 (slice buf 36 2) then _
    else if icmpType (clearSums buf) ≠ 8 then _ else _) = _
  rw [htype]
  by_cases hicmp : IcmpOk buf
  · rw [if_neg (not_not.mpr (hcheck.mp hicmp))]
    by_cases ht : icmpType buf = 8
    · rw [if_neg (not_not.mpr ht), if_pos ⟨hicmp, ht⟩]
      rfl
    · rw [if_pos ht, if_neg fun h => ht h.2]
  · rw [if_pos fun h => hicmp (hcheck.mpr h), if_neg fun h => hicmp h.1]

/-- The verdict on an echo request. -/
theorem verdict_of_echoRequest (h : EchoRequest sr env buf) :
    ∃ addressed, addressed.ip = ipDst buf ∧
      ipPacketVerdict sr buf = .ok (.respond (clearSums buf) 0 0 (some addressed)) := by
  obtain ⟨addressed, hip, hdst⟩ := getDstInterface_of_toUs h.toUs
  refine ⟨addressed, hip, ?_⟩
  rw [verdict_of_icmp h.length h.headerOk hdst h.icmp, if_pos ⟨h.icmpOk, h.type⟩]

/-- **An echo request is answered** with the frame `send_icmp_response` makes of it. -/
theorem srHandlepacket_of_echoRequest {iface : SrIf} (h : EchoRequest sr env buf)
    (hstray : env.strayHdr.isSome) (hiface : srGetInterface sr interface = some iface) :
    srHandlepacket sr env buf interface = .ok (sr, [.send (.icmpResponse 0 0)
      (icmpResponseFrame iface (ipDst buf) (clearSums buf) env.after 0 0) interface]) := by
  have hlen : 34 ≤ (clearSums buf).length := by
    rw [length_clearSums]
    exact le_trans (by decide) h.length
  obtain ⟨addressed, hip, hverdict⟩ := verdict_of_echoRequest h
  rw [srHandlepacket, if_pos h.ethertype, handleIpPacket, hverdict]
  show (sendIcmpResponse sr env (clearSums buf) interface 0 0 (some addressed) >>= fun out =>
    .ok (sr, out)) = _
  rw [sendIcmpResponse_eq hlen hstray hiface, Option.getD_some, hip]
  rfl

/-- Where the stray pointer cannot be read, an echo request is the end of the router. -/
theorem srHandlepacket_stray (h : EchoRequest sr env buf) (hstray : env.strayHdr = none) :
    srHandlepacket sr env buf interface = .error .strayRead := by
  have hlen : 34 ≤ (clearSums buf).length := by
    rw [length_clearSums]
    exact le_trans (by decide) h.length
  obtain ⟨addressed, -, hverdict⟩ := verdict_of_echoRequest h
  rw [srHandlepacket, if_pos h.ethertype, handleIpPacket, hverdict]
  show (sendIcmpResponse sr env (clearSums buf) interface 0 0 (some addressed) >>= fun out =>
    .ok (sr, out)) = _
  rw [sendIcmpResponse_stray hlen hstray]
  rfl

/-- What `send_icmp_response` makes of the request is its echo reply. -/
theorem echoReply_icmpResponseFrame {iface addressed : SrIf} {after : ℕ → UInt8}
    (h : 38 ≤ buf.length) (hip : addressed.ip = ipDst buf) :
    EchoReply iface buf (icmpResponseFrame iface addressed.ip (clearSums buf) after 0 0) := by
  have hlen : 34 ≤ (clearSums buf).length := by
    rw [length_clearSums]
    omega
  constructor
  case length => rw [length_icmpResponseFrame, if_pos rfl, length_clearSums]
  case src => rw [ipSrc_icmpResponseFrame hlen, hip]
  case dst => rw [ipDst_icmpResponseFrame hlen, ipSrc, slice_clearSums (by omega), ipSrc]
  case ttl => exact ipTtl_icmpResponseFrame hlen
  case type => exact (icmpType_echoReply (by rw [length_clearSums]; omega)).1
  case code => exact (icmpType_echoReply (by rw [length_clearSums]; omega)).2
  case rest =>
    rw [drop_echoReply]
    apply List.ext_getElem?
    intro k
    rw [List.getElem?_drop, List.getElem?_drop]
    exact getElem?_clearSums (by omega)
  case dhost =>
    rw [etherDhost_icmpResponseFrame hlen, etherShost, slice_clearSums (by omega), etherShost]
  case shost => exact etherShost_icmpResponseFrame hlen

/-- The request is answered with one frame, its echo reply, on the interface it came in on; the
check of `sr_send_packet` lets it pass, and nothing else changes. -/
def AnswersEcho (sr : SrInstance) (env : Env) (buf : List UInt8) (interface : IfaceName) : Prop :=
  ∃ iface reply, iface ∈ sr.ifList ∧ srGetInterface sr interface = some iface ∧
    srHandlepacket sr env buf interface = .ok (sr, [.send (.icmpResponse 0 0) reply interface]) ∧
    EchoReply iface buf reply ∧ srEtherAddrsMatchInterface sr reply interface = true

/-- **Echo replies.** An echo request received on an interface of the router is answered exactly if
the pointer `send_icmp_response` prints through can be read. -/
theorem answersEcho_iff (h : EchoRequest sr env buf) (hin : interface ∈ sr.ifList.map SrIf.name) :
    AnswersEcho sr env buf interface ↔ env.strayHdr.isSome := by
  constructor
  · rintro ⟨iface, reply, -, -, hsent, -⟩
    rw [Option.isSome_iff_ne_none]
    intro hstray
    rw [srHandlepacket_stray h hstray] at hsent
    cases hsent
  intro hstray
  obtain ⟨iface, hiface⟩ := Option.ne_none_iff_exists'.mp (srGetInterface_ne_none_iff.mpr hin)
  obtain ⟨addressed, hip, -⟩ := verdict_of_echoRequest h
  have hreply : EchoReply iface buf
      (icmpResponseFrame iface (ipDst buf) (clearSums buf) env.after 0 0) :=
    hip ▸ echoReply_icmpResponseFrame h.length hip
  refine ⟨iface, _, List.mem_of_find?_eq_some hiface, hiface,
    srHandlepacket_of_echoRequest h hstray hiface, hreply, ?_⟩
  rw [srEtherAddrsMatchInterface, hiface]
  exact decide_eq_true hreply.shost

end reply

/-- An echo request from `10.0.1.9` to `10.0.2.1`, with four bytes of data. -/
def pingFrame : List UInt8 :=
  putCksum (putCksum ([2, 0, 0, 0, 0, 1] ++ [2, 0, 0, 0, 1, 9] ++ [8, 0] ++
    [0x45, 0, 0, 32, 0, 0, 0, 0, 64, 1, 0, 0, 10, 0, 1, 9, 10, 0, 2, 1] ++
    [8, 0, 0, 0, 0, 7, 0, 1, 1, 2, 3, 4]) 24 14 20) 36 34 12

/-- It is an echo request, wherever the stray pointer leads. -/
theorem echoRequest_pingFrame (strayHdr : Option UInt16) :
    EchoRequest twoPort { stillEnv 1 with strayHdr := strayHdr } pingFrame where
  length := by decide +kernel
  ethertype := show ethertype pingFrame (stillEnv 1).after = 0x0800 by decide +kernel
  headerOk := by decide +kernel
  toUs := ⟨ethIf 2, by decide +kernel, by decide +kernel⟩
  icmp := by decide +kernel
  type := by decide +kernel
  icmpOk := by decide +kernel

/-- Received on `eth1` where the stray pointer can be read, it is answered there for `eth2`. -/
theorem answersEcho_pingFrame : AnswersEcho twoPort (stillEnv 1) pingFrame (ethName 1) :=
  (answersEcho_iff (echoRequest_pingFrame (some 0)) (by decide +kernel)).mpr rfl

/-- Received on `eth1` where it cannot, it stops the router, and no reply is sent. -/
theorem pingFrame_unanswered :
    EchoRequest twoPort (strayEnv 1) pingFrame ∧ ethName 1 ∈ twoPort.ifList.map SrIf.name ∧
    srHandlepacket twoPort (strayEnv 1) pingFrame (ethName 1) = .error .strayRead ∧
    ¬ AnswersEcho twoPort (strayEnv 1) pingFrame (ethName 1) := by
  have hrequest : EchoRequest twoPort (strayEnv 1) pingFrame := echoRequest_pingFrame none
  have hstop : srHandlepacket twoPort (strayEnv 1) pingFrame (ethName 1) = .error .strayRead :=
    srHandlepacket_stray hrequest rfl
  refine ⟨hrequest, by decide +kernel, hstop, ?_⟩
  rintro ⟨iface, reply, -, -, hsent, -⟩
  rw [hstop] at hsent
  cases hsent

end SimpleRouter
