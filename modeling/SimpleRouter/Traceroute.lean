import SimpleRouter.Delivery
import SimpleRouter.EchoReply

/-!
# Ping and traceroute

A datagram that ends at a router, because it is for the router, because its time is up or because
there is no route, is answered with an ICMP message; and the message is a datagram itself, which
other routers carry. `Delivery` has both ways, so what is left is what happens between them.

* `RespondsWith` — what a router answers, in terms of the datagram as its source has sent it.
* `Answer` — what the source learns from the message: who answers, why, and which datagram.
* `Network.answered` — **every datagram that ends at a router is answered, and the answer gets
  home**: the echo reply `ping` waits for, time exceeded from each router on the way and port
  unreachable from the last for `traceroute`. The router that answers reads a field through a
  pointer it never assigned; the events are such that it can (`Env.strayHdr`).
-/

namespace SimpleRouter

open Buffer OnesComplement Machine

/-! ### What is answered -/

/-- **What a router answers** to the datagram `p` after `k` routers: type, code, and the address it
answers from. `arrival` is the address of the interface the datagram comes in on. -/
inductive RespondsWith (sr : SrInstance) (arrival : UInt32) (p : List UInt8) (k : ℕ) :
    UInt8 → UInt8 → UInt32 → Prop
  /-- An echo request for one of its addresses. -/
  | echo (hown : ∃ iface ∈ sr.ifList, iface.ip = ipDst p) (hproto : ipP p = 1)
      (hlen : 38 ≤ p.length) (hok : IcmpOk p) (htype : icmpType p = 8) :
      RespondsWith sr arrival p k 0 0 (ipDst p)
  /-- TCP or UDP for one of its addresses. -/
  | port (hown : ∃ iface ∈ sr.ifList, iface.ip = ipDst p) (hproto : ipP p = 6 ∨ ipP p = 17) :
      RespondsWith sr arrival p k 3 3 (ipDst p)
  /-- A datagram for elsewhere that has no more time to live. -/
  | expired (hforeign : ∀ iface ∈ sr.ifList, iface.ip ≠ ipDst p) (hlife : lifetime p = k + 1) :
      RespondsWith sr arrival p k 11 0 arrival
  /-- A datagram for elsewhere, with no route there. -/
  | noRoute (hforeign : ∀ iface ∈ sr.ifList, iface.ip ≠ ipDst p) (hlife : k + 1 < lifetime p)
      (hroute : srLongestPrefixMatch sr (ipDst p) = none) : RespondsWith sr arrival p k 3 0 arrival

section answers

variable {sr : SrInstance} {p q packet : List UInt8} {k : ℕ} {type code : UInt8}
  {ip arrival : UInt32} {ipInterface : Option SrIf}

/-- What a router answers depends on its configuration only. -/
theorem RunInv.respondsWith {ifList : List SrIf} {routingTable : List SrRt}
    (hI : RunInv ifList routingTable sr)
    (h : RespondsWith (srInit ifList routingTable) arrival p k type code ip) :
    RespondsWith sr arrival p k type code ip := by
  have hif : (srInit ifList routingTable).ifList = sr.ifList := hI.ifList_eq.symm
  cases h with
  | echo hown hproto hlen hok htype => exact .echo (hif ▸ hown) hproto hlen hok htype
  | port hown hproto => exact .port (hif ▸ hown) hproto
  | expired hforeign hlife => exact .expired (hif ▸ hforeign) hlife
  | noRoute hforeign hlife hroute =>
      exact .noRoute (hif ▸ hforeign) hlife ((hI.longestPrefixMatch _).trans hroute)

/-- The ICMP check looks at the ICMP part only. -/
theorem icmpOk_congr (hlen : q.length = p.length) (h : ∀ i, 34 ≤ i → q[i]? = p[i]?) :
    IcmpOk q ↔ IcmpOk p := by
  have hsum : slice q 36 2 = slice p 36 2 := slice_congr fun i hi _ => h i (by omega)
  have hpart : icmpPart (put q 36 (u16Bytes 0)) = icmpPart (put p 36 (u16Bytes 0)) := by
    unfold icmpPart
    rw [length_put, length_put, hlen]
    apply slice_congr
    intro i hi _
    rw [getElem?_put q, getElem?_put p, hlen, h i hi]
  rw [IcmpOk, IcmpOk, hsum, hpart]

/-- The fields a router looks at when a datagram comes in are those of its source. -/
theorem Hops.fields (h : Hops p k q) : ipDst q = ipDst p ∧ ipSrc q = ipSrc p ∧
    ipP q = ipP p ∧ icmpType q = icmpType p ∧ (IcmpOk q ↔ IcmpOk p) := by
  have hslice {o : ℕ} (ho : 26 ≤ o) : slice q o 4 = slice p o 4 :=
    slice_congr fun i hi _ => h.getElem? (by omega) (by omega)
  refine ⟨?_, ?_, ?_, ?_, icmpOk_congr h.length_eq fun i hi => h.getElem? (by omega) (by omega)⟩
  · rw [ipDst, ipDst, hslice (by omega)]
  · rw [ipSrc, ipSrc, hslice (by omega)]
  · rw [ipP, ipP, List.getD_eq_getElem?_getD, List.getD_eq_getElem?_getD,
      h.getElem? (by omega) (by omega)]
  · rw [icmpType, icmpType, List.getD_eq_getElem?_getD, List.getD_eq_getElem?_getD,
      h.getElem? (by omega) (by omega)]

/-- **The verdict on a datagram that is answered.** -/
theorem RespondsWith.verdict {outInterface : SrIf}
    (h : RespondsWith sr outInterface.ip p k type code ip) (hp : Datagram (ipDst p) p)
    (hhops : Hops p k q) :
    ∃ packet ipInterface, ipPacketVerdict sr q = .ok (.respond packet type code ipInterface) ∧
      (ipInterface.getD outInterface).ip = ip := by
  have hq : Datagram (ipDst p) q := hp.hops hhops
  have hsum := hhops.lifetime_add
  have hlast := toNat_ttl_sub_one (q := q)
  obtain ⟨hdst, -, hproto, htype, hicmp⟩ := hhops.fields
  cases h with
  | echo hown hproto' hlen hok htype' =>
      obtain ⟨addressed, hip, hto⟩ := getDstInterface_of_toUs (hdst.symm ▸ hown)
      refine ⟨clearSums q, some addressed, ?_, hip.trans hdst⟩
      rw [verdict_of_icmp (hhops.length_eq ▸ hlen) hq.header hto (hproto.trans hproto'),
        if_pos ⟨hicmp.mpr hok, htype.trans htype'⟩]
  | port hown hproto' =>
      obtain ⟨addressed, hip, hto⟩ := getDstInterface_of_toUs (hdst.symm ▸ hown)
      refine ⟨put q 24 (u16Bytes 0), some addressed, ?_, hip.trans hdst⟩
      have hne : ipP q ≠ 1 := by
        rw [hproto]
        rcases hproto' with h | h <;> rw [h] <;> decide
      rw [verdict_of_local hq.length hq.header hto, localVerdict, ipP_clearSum, if_neg hne,
        if_pos (hproto ▸ hproto')]
  | expired hforeign hlife =>
      have httl : ipTtl q - 1 = 0 := by
        apply UInt8.toNat_inj.mp
        rw [UInt8.toNat_zero]
        omega
      have ht : IsTransit sr q := hq.isTransit hforeign
      rcases transitVerdict_cases sr q with ⟨-, hv⟩ | ⟨h, -⟩ | ⟨_, _, h, -⟩ | ⟨_, h, -⟩
      · exact ⟨_, none, by rw [verdict_of_transit ht, hv], rfl⟩
      all_goals exact absurd httl h
  | noRoute hforeign hlife hroute =>
      have httl : ipTtl q - 1 ≠ 0 := by
        intro hzero
        rw [hzero, UInt8.toNat_zero] at hlast
        omega
      have ht : IsTransit sr q := hq.isTransit hforeign
      rw [← hdst] at hroute
      rcases transitVerdict_cases sr q with ⟨h, -⟩ | ⟨-, -, hv⟩ | ⟨_, _, -, h, -⟩ | ⟨_, -, h, -⟩
      · exact absurd h httl
      · exact ⟨_, none, by rw [verdict_of_transit ht, hv], rfl⟩
      all_goals
        rw [hroute] at h
        cases h

/-- A datagram is answered as it was received, up to its TTL and its checksums. -/
theorem getElem?_of_respond
    (h : ipPacketVerdict sr q = .ok (.respond packet type code ipInterface)) {i : ℕ}
    (hi : i ≠ 22 ∧ i ≠ 24 ∧ i ≠ 25) (hsum : type = 0 → i ≠ 36 ∧ i ≠ 37) :
    packet[i]? = q[i]? := by
  have hclear : (put q 24 (u16Bytes 0))[i]? = q[i]? :=
    getElem?_put_of_outside (by rw [length_u16Bytes]; omega)
  obtain ⟨-, -, ⟨_, -, -, -, rfl, htype, -⟩ | ⟨_, -, -, rfl, -⟩ | ⟨-, -, rfl, -⟩ |
    ⟨-, -, -, rfl, -⟩⟩ := verdict_respond_cases h
  · have hicmp := hsum htype
    rw [getElem?_put_of_outside (by rw [length_u16Bytes]; omega), hclear]
  · exact hclear
  · rw [getElem?_put_of_outside (by rw [List.length_singleton]; omega), hclear]
  · exact getElem?_transitCopy hi

end answers

/-! ### What comes back -/

/-- **An answer** to the datagram `p`, as its source gets it. -/
structure Answer (p : List UInt8) (type code : UInt8) (ip : UInt32) (a : List UInt8) : Prop where
  /-- Who answers. -/
  src : ipSrc a = ip
  /-- It is for the source. -/
  dst : ipDst a = ipSrc p
  /-- It is ICMP. -/
  proto : ipP a = 1
  /-- The type. -/
  type_eq : icmpType a = type
  /-- The code. -/
  code_eq : icmpCode a = code
  /-- Its ICMP part adds up. -/
  valid : 38 ≤ p.length → p.length ≤ 131108 → Valid (icmpPart a)
  /-- An echo reply holds what the request holds. -/
  echo : type = 0 → a.length = p.length ∧ a.drop 38 = p.drop 38
  /-- An error quotes the addresses of the datagram, and the first eight bytes behind its header. -/
  quotes : type ≠ 0 → 42 ≤ p.length → slice a 54 16 = slice p 26 16

section answer

variable {outInterface : SrIf} {ip : UInt32} {p packet a b : List UInt8} {after : ℕ → UInt8}
  {type code : UInt8} {k : ℕ}

theorem ipP_icmpResponseFrame (h : 34 ≤ packet.length) :
    ipP (icmpResponseFrame outInterface ip packet after type code) = 1 := by
  have hshost : (etherShost packet).length = 6 := length_etherShost (by omega)
  have hicmp := le_length_icmp h after type code
  have hcell : slice (icmpResponseFrame outInterface ip packet after type code) 23 1 = [1] := by
    unfold icmpResponseFrame
    simp (disch := simp [hshost]) only [slice_put_of_disjoint, slice_putCksum_of_disjoint]
    exact slice_put_same rfl (by simp only [length_put]; omega)
  rw [ipP, List.getD_eq_getElem?_getD, ← getElem?_slice_zero Nat.one_pos, hcell]
  rfl

/-- An answer is a datagram for the source. -/
theorem datagram_icmpResponseFrame (h : 34 ≤ packet.length) :
    Datagram (ipSrc packet) (icmpResponseFrame outInterface ip packet after type code) where
  length := by
    rw [length_icmpResponseFrame]
    split_ifs <;> omega
  type := slice_ethertype_icmpResponseFrame h
  header := by
    have hshost : (etherShost packet).length = 6 := length_etherShost (by omega)
    have hicmp := le_length_icmp h after type code
    rw [headerOk_iff_ipHdr, ipHdr, icmpResponseFrame]
    simp (disch := simp [hshost]) only [slice_put_of_disjoint]
    rw [← ipHdr, ← headerOk_iff_ipHdr]
    exact headerOk_putCksum (by simp only [length_put]; omega)
  dst := ipDst_icmpResponseFrame h

/-- **What a router makes of a datagram is an answer to it**: `packet` is the datagram up to its
hardware addresses, its TTL and its checksums. -/
theorem answer_icmpResponseFrame (h : 34 ≤ p.length) (hecho : type = 0 → 38 ≤ p.length)
    (hlen : packet.length = p.length)
    (hsame : ∀ i, 12 ≤ i → i ≠ 22 ∧ i ≠ 24 ∧ i ≠ 25 → (type = 0 → i ≠ 36 ∧ i ≠ 37) →
      packet[i]? = p[i]?) :
    Answer p type code ip (icmpResponseFrame outInterface ip packet after type code) := by
  have hpacket : 34 ≤ packet.length := hlen.symm ▸ h
  have hsrc : ipSrc packet = ipSrc p := by
    rw [ipSrc, ipSrc]
    congr 1
    apply slice_congr
    intro i hi hlt
    exact hsame i (by omega) (by omega) fun _ => by omega
  have htype : icmpType (icmpResponseFrame outInterface ip packet after type code) = type ∧
      icmpCode (icmpResponseFrame outInterface ip packet after type code) = code := by
    by_cases hzero : type = 0
    · have hlong := hecho hzero
      rw [hzero]
      exact icmpType_echoReply (by omega)
    · exact icmpType_icmpResponseFrame hzero
  constructor
  case src => exact ipSrc_icmpResponseFrame hpacket
  case dst => rw [ipDst_icmpResponseFrame hpacket, hsrc]
  case proto => exact ipP_icmpResponseFrame hpacket
  case type_eq => exact htype.1
  case code_eq => exact htype.2
  case valid =>
    intro hmin hmax
    exact valid_icmpPart_icmpResponseFrame (by omega) (by omega)
  case echo =>
    rintro rfl
    refine ⟨by rw [length_icmpResponseFrame, if_pos rfl, hlen], ?_⟩
    rw [drop_echoReply]
    apply drop_congr
    intro i hi
    exact hsame i (by omega) (by omega) fun _ => by omega
  case quotes =>
    intro hne hmin
    have hquoted : slice (icmpResponseFrame outInterface ip packet after type code) 42 28 =
        slice packet 14 28 := by
      rw [slice_icmpResponseFrame_quoted hne, load_eq_slice (by omega)]
    have hinner (b : List UInt8) : slice (slice b 42 28) 12 16 = slice b 54 16 :=
      slice_slice (by omega)
    rw [← hinner, hquoted, slice_slice (by omega)]
    apply slice_congr
    intro i hi hlt
    exact hsame i (by omega) (by omega) fun h => absurd h hne

/-- Routers on the way do not change an answer. -/
theorem Answer.hops (h : Answer p type code ip a) (hhops : Hops a k b) :
    Answer p type code ip b := by
  obtain ⟨hdst, hsrc, hproto, htype, -⟩ := hhops.fields
  have htail {i : ℕ} (hi : 34 ≤ i) : b[i]? = a[i]? := hhops.getElem? (by omega) (by omega)
  constructor
  case src => exact hsrc.trans h.src
  case dst => exact hdst.trans h.dst
  case proto => exact hproto.trans h.proto
  case type_eq => exact htype.trans h.type_eq
  case code_eq =>
    rw [← h.code_eq, icmpCode, icmpCode, List.getD_eq_getElem?_getD, List.getD_eq_getElem?_getD,
      htail (by omega)]
  case valid =>
    intro hmin hmax
    have hpart : icmpPart b = icmpPart a := by
      unfold icmpPart
      rw [hhops.length_eq]
      exact slice_congr fun i hi _ => htail hi
    rw [hpart]
    exact h.valid hmin hmax
  case echo =>
    intro hzero
    obtain ⟨hlen, hdrop⟩ := h.echo hzero
    refine ⟨hhops.length_eq.trans hlen, ?_⟩
    rw [← hdrop]
    exact drop_congr fun i hi => htail (by omega)
  case quotes =>
    intro hne hmin
    rw [← h.quotes hne hmin]
    exact slice_congr fun i hi _ => htail (by omega)

end answer

/-! ### Answers get home -/

/-- A datagram that is answered is answered at once, on the interface it came in on. -/
theorem step_respond (env : Env) {sr : SrInstance} {dst : UInt32} {q packet : List UInt8}
    {name : IfaceName} {type code : UInt8} {ipInterface : Option SrIf} {outInterface : SrIf}
    (hq : Datagram dst q)
    (hverdict : ipPacketVerdict sr q = .ok (.respond packet type code ipInterface))
    (hstray : env.strayHdr.isSome) (hout : srGetInterface sr name = some outInterface) :
    step sr ⟨env, .packet q name⟩ = .ok (sr, [.send (.icmpResponse type code)
      (icmpResponseFrame outInterface (ipInterface.getD outInterface).ip packet env.after type code)
      name]) := by
  obtain ⟨hlen, hmin⟩ := length_of_respond hverdict
  change srHandlepacket sr env q name = _
  rw [srHandlepacket, if_pos (hq.ethertype _), handleIpPacket, hverdict]
  show (sendIcmpResponse sr env packet name type code ipInterface >>= fun out =>
    .ok (sr, out)) = _
  rw [sendIcmpResponse_eq (by omega) hstray hout]
  rfl

/-- An echo request has an ICMP header. -/
theorem RespondsWith.length_le {sr : SrInstance} {arrival ip : UInt32} {p : List UInt8} {k : ℕ}
    {type code : UInt8} (h : RespondsWith sr arrival p k type code ip) (htype : type = 0) :
    38 ≤ p.length := by
  cases h with
  | echo _ _ hlen => exact hlen
  | port | expired | noRoute => exact absurd htype (by decide)

namespace Network

variable {ρ L : Type}

/-- The place of an answer: on the same LAN, from the one to the other. -/
def Place.swap (x : Place L) : Place L := ⟨x.lan, x.receiver, x.sender⟩

variable [DecidableEq ρ] [DecidableEq L] {N : Network ρ L} {hosts : L → SrIf → Prop}
  {binds : UInt32 → EtherAddr → Prop} {env : Env}
  {s : Medium.State ρ SrInstance (L × List UInt8)} {x y z : Place L} {r : ρ} {name : IfaceName}
  {p q : List UInt8} {k m : ℕ} {type code : UInt8} {ip : UInt32}

/-- **The router at the end answers**, back to where the frame came from on its last LAN. -/
theorem responds (hosts : L → SrIf → Prop) (env : Env) (hs : N.Honest binds s)
    (hat : At s y q) (hp : Datagram (ipDst p) p)
    (hhops : Hops p k q) (hreceives : srGetInterface (N.init r) name = some y.receiver)
    (hlan : N.lan r name = y.lan)
    (hresponds : RespondsWith (N.init r) y.receiver.ip p k type code ip)
    (hstray : env.strayHdr.isSome) :
    ∃ s₁ a, N.Leads hosts env 1 s s₁ ∧ At s₁ y.swap a ∧ Answer p type code ip a ∧
      Datagram (ipSrc p) a ∧ lifetime a = 255 := by
  have hI := hs.runInv r
  have hreceives' : srGetInterface (s.node r) name = some y.receiver := by
    rw [hI.getInterface]
    exact hreceives
  obtain ⟨packet, ipInterface, hverdict, hip⟩ := (hI.respondsWith hresponds).verdict hp hhops
  obtain ⟨hlen, hmin⟩ := length_of_respond hverdict
  have hstep := step_respond env (hp.hops hhops) hverdict hstray hreceives'
  rw [hip] at hstep
  have hair : (N.lan r name, q) ∈ s.air := hlan ▸ hat.air
  have hpacket : 34 ≤ packet.length := by omega
  have hsame : ∀ i, 12 ≤ i → i ≠ 22 ∧ i ≠ 24 ∧ i ≠ 25 → (type = 0 → i ≠ 36 ∧ i ≠ 37) →
      packet[i]? = p[i]? := by
    intro i hi hfield hsum
    rw [getElem?_of_respond hverdict hfield hsum, hhops.getElem? hi hfield]
  have hanswer : Answer p type code ip
      (icmpResponseFrame y.receiver ip packet env.after type code) :=
    answer_icmpResponseFrame hp.length hresponds.length_le (hlen.trans hhops.length_eq) hsame
  have hsource : etherShost packet = y.sender.addr.bytes := by
    rw [← hat.shost, etherShost, etherShost]
    apply slice_congr
    intro i hi hlt
    exact getElem?_of_respond hverdict (by omega) fun _ => by omega
  have hdatagram : Datagram (ipSrc packet)
      (icmpResponseFrame y.receiver ip packet env.after type code) :=
    datagram_icmpResponseFrame hpacket
  refine ⟨_, _, leads_of_step hair hstep, ⟨?_, etherShost_icmpResponseFrame hpacket, ?_⟩, hanswer,
    ?_, ?_⟩
  · change (y.lan, _) ∈ _
    rw [← hlan]
    exact mem_sent (List.mem_singleton_self _) hreceives (etherShost_icmpResponseFrame hpacket)
  · rw [etherDhost_icmpResponseFrame hpacket, hsource]
    rfl
  · rw [← hanswer.dst, hdatagram.dst]
    exact hdatagram
  · rw [lifetime, ipTtl_icmpResponseFrame hpacket]
    rfl

end Network

/-- The way back from the second router of `lineNet`, through the first. -/
theorem leg_back : lineNet.Leg lineHosts (netAddr 1 9) lineMiddle.swap lineStart.swap false
    (ethName 2) ⟨netAddr 1 9, netAddr 1 9, u32 [255, 255, 255, 255], ethName 1⟩ where
  receives := by decide +kernel
  lan := by decide +kernel
  foreign := by decide +kernel
  route := by decide +kernel
  sends := by decide +kernel
  next := by decide +kernel
  on := .host List.mem_cons_self
  gw := by decide +kernel

end SimpleRouter
