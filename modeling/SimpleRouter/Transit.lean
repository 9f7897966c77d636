import SimpleRouter.Step

/-!
# Transit packets and their TTL

A transit packet is one the header checks accept and whose destination is none of the router's own
addresses (`IsTransit`). `transitCopy` is the copy that is forwarded or queued: the received frame
with the TTL decremented and the header checksum recomputed.

* `slice_transitCopy`, `getElem?_transitCopy` — it differs from the frame in bytes 22, 24 and 25
  at most; `ipTtl_transitCopy`, `valid_ipHdr_transitCopy` — what is there.
* `verdict_queue_iff`, `verdict_forward_iff` — when a packet is queued and when it is forwarded.
* `ttlSafe_iff` — **the TTL rule holds of a transit packet exactly if its TTL is not `0`**: the
  decrement is on eight bits and the test for zero comes after it, so `0` becomes `255`
  (`ttl_zero_queued`).
-/

namespace SimpleRouter

open Buffer OnesComplement Machine

/-! ### The forwarded copy -/

/-- The packet as forwarded or queued. -/
def transitCopy (buf : List UInt8) : List UInt8 := rewriteTransit (put buf 24 (u16Bytes 0))

/-- The header check of `handle_ip_packet` accepts the frame. -/
def HeaderOk (buf : List UInt8) : Prop := ipSum buf = cksum (ipHdr (put buf 24 (u16Bytes 0)))

/-- A frame that passes the header checks and is addressed to none of the router's interfaces. -/
def IsTransit (sr : SrInstance) (buf : List UInt8) : Prop :=
  34 ≤ buf.length ∧ HeaderOk buf ∧ getDstInterface sr buf = none

instance (buf : List UInt8) : Decidable (HeaderOk buf) := inferInstanceAs (Decidable (_ = _))

instance (sr : SrInstance) (buf : List UInt8) : Decidable (IsTransit sr buf) :=
  inferInstanceAs (Decidable (_ ∧ _ ∧ _))

variable {sr : SrInstance} {buf : List UInt8}

/-- The header check accepts what `cksum` has been stored in. -/
theorem headerOk_putCksum (h : 26 ≤ buf.length) : HeaderOk (putCksum buf 24 14 20) := by
  unfold HeaderOk putCksum
  dsimp only
  rw [ipSum, slice_put_same (length_u16Bytes _) (by rw [length_put]; omega), u16_u16Bytes,
    put_put_same (by simp), put_put_same rfl, ipHdr]

/-- The copy has the length of the frame. -/
@[simp] theorem length_transitCopy (buf : List UInt8) : (transitCopy buf).length = buf.length := by
  simp [transitCopy, rewriteTransit]

/-- Everything but the TTL and the checksum stays. -/
theorem getElem?_transitCopy {i : ℕ} (h : i ≠ 22 ∧ i ≠ 24 ∧ i ≠ 25) :
    (transitCopy buf)[i]? = buf[i]? := by
  unfold transitCopy rewriteTransit
  rw [getElem?_putCksum_of_outside (by omega)]
  rw [getElem?_put_of_outside (by simp only [List.length_singleton]; omega)]
  exact getElem?_put_of_outside (by rw [length_u16Bytes]; omega)

/-- A window clear of the TTL and the checksum is copied. -/
theorem slice_transitCopy {i n : ℕ} (h : i + n ≤ 22 ∨ 26 ≤ i) :
    slice (transitCopy buf) i n = slice buf i n := by
  apply List.ext_getElem?
  intro j
  rw [getElem?_slice, getElem?_slice]
  split_ifs with hj
  · exact getElem?_transitCopy (by omega)
  · rfl

/-- The destination stays. -/
@[simp] theorem ipDst_transitCopy (buf : List UInt8) : ipDst (transitCopy buf) = ipDst buf := by
  rw [ipDst, slice_transitCopy (by omega), ipDst]

/-- Clearing the checksum keeps the TTL. -/
theorem ipTtl_clearSum (buf : List UInt8) : ipTtl (put buf 24 (u16Bytes 0)) = ipTtl buf := by
  rw [ipTtl, ipTtl, List.getD_eq_getElem?_getD, List.getD_eq_getElem?_getD,
    getElem?_put_of_outside (by omega)]

/-- Clearing the checksum keeps the protocol. -/
theorem ipP_clearSum (buf : List UInt8) : ipP (put buf 24 (u16Bytes 0)) = ipP buf := by
  rw [ipP, ipP, List.getD_eq_getElem?_getD, List.getD_eq_getElem?_getD,
    getElem?_put_of_outside (by omega)]

/-- The TTL of the copy is the received one minus one, on eight bits. -/
theorem ipTtl_transitCopy (h : 34 ≤ buf.length) : ipTtl (transitCopy buf) = ipTtl buf - 1 := by
  have hcell : (transitCopy buf)[22]? = some (ipTtl (put buf 24 (u16Bytes 0)) - 1) := by
    unfold transitCopy rewriteTransit
    rw [getElem?_putCksum_of_outside (by omega), getElem?_put, if_pos]
    · simp
    · simp only [List.length_singleton, length_put]
      omega
  rw [ipTtl, List.getD_eq_getElem?_getD, hcell, ipTtl_clearSum]
  rfl

/-- The header of the copy has a valid checksum. -/
theorem valid_ipHdr_transitCopy (h : 34 ≤ buf.length) : Valid (ipHdr (transitCopy buf)) := by
  unfold transitCopy rewriteTransit
  exact valid_putCksum (by omega) (by omega) (by simpa using h) (by omega) (by omega)

/-- The hardware addresses in front do not change the rest. -/
theorem slice_rewriteEther {p : List UInt8} {shost dhost : EtherAddr} {i n : ℕ} (h : 12 ≤ i) :
    slice (rewriteEther p shost dhost) i n = slice p i n := by
  rw [rewriteEther, slice_put_of_disjoint (by rw [dhost.length_eq]; omega),
    slice_put_of_disjoint (by rw [shost.length_eq]; omega)]

/-- Behind the hardware addresses everything stays. -/
theorem getElem?_rewriteEther {p : List UInt8} {shost dhost : EtherAddr} {i : ℕ} (h : 12 ≤ i) :
    (rewriteEther p shost dhost)[i]? = p[i]? := by
  rw [rewriteEther, getElem?_put_of_outside (by rw [dhost.length_eq]; omega),
    getElem?_put_of_outside (by rw [shost.length_eq]; omega)]

/-- New hardware addresses keep the length. -/
@[simp] theorem length_rewriteEther (p : List UInt8) (shost dhost : EtherAddr) :
    (rewriteEther p shost dhost).length = p.length := by
  simp [rewriteEther]

/-- The destination stays. -/
theorem ipDst_rewriteEther (p : List UInt8) (shost dhost : EtherAddr) :
    ipDst (rewriteEther p shost dhost) = ipDst p := by
  rw [ipDst, slice_rewriteEther (by omega), ipDst]

/-- The new destination. -/
theorem etherDhost_rewriteEther {p : List UInt8} {shost dhost : EtherAddr} (h : 12 ≤ p.length) :
    etherDhost (rewriteEther p shost dhost) = dhost.bytes := by
  refine slice_put_same dhost.length_eq ?_
  rw [length_put]
  omega

/-- The new source. -/
theorem etherShost_rewriteEther {p : List UInt8} {shost dhost : EtherAddr} (h : 12 ≤ p.length) :
    etherShost (rewriteEther p shost dhost) = shost.bytes := by
  rw [etherShost, rewriteEther, slice_put_of_disjoint (by rw [dhost.length_eq]; omega)]
  exact slice_put_same shost.length_eq h

/-- The TTL stays. -/
theorem ipTtl_rewriteEther (p : List UInt8) (shost dhost : EtherAddr) :
    ipTtl (rewriteEther p shost dhost) = ipTtl p := by
  rw [ipTtl, ipTtl, List.getD_eq_getElem?_getD, List.getD_eq_getElem?_getD,
    getElem?_rewriteEther (by omega)]

/-! ### The verdict on a transit packet -/

/-- Clearing the checksum changes nothing about whom the packet is for. -/
theorem getDstInterface_clearSum (sr : SrInstance) (buf : List UInt8) :
    getDstInterface sr (put buf 24 (u16Bytes 0)) = getDstInterface sr buf := by
  have hdst : ipDst (put buf 24 (u16Bytes 0)) = ipDst buf := by
    rw [ipDst, slice_put_of_disjoint (by simp), ipDst]
  unfold getDstInterface
  rw [hdst]

/-- The verdict on a transit packet is that of its branch. -/
theorem verdict_of_transit (h : IsTransit sr buf) :
    ipPacketVerdict sr buf = .ok (transitVerdict sr (put buf 24 (u16Bytes 0))) := by
  obtain ⟨hlen, hsum, hdst⟩ := h
  unfold ipPacketVerdict
  rw [if_neg (by omega), if_neg (by simpa [HeaderOk] using hsum)]
  simp only [getDstInterface_clearSum, hdst]

/-- The verdict on a packet for one of the router's addresses is that of its branch. -/
theorem verdict_of_local {ipInterface : SrIf} (h : 34 ≤ buf.length) (hok : HeaderOk buf)
    (hdst : getDstInterface sr buf = some ipInterface) :
    ipPacketVerdict sr buf = localVerdict (put buf 24 (u16Bytes 0)) ipInterface := by
  unfold ipPacketVerdict
  rw [if_neg (by omega), if_neg (by simpa [HeaderOk] using hok)]
  simp only [getDstInterface_clearSum, hdst]

/-- What the transit branch decides, in terms of the received frame. -/
theorem transitVerdict_cases (sr : SrInstance) (buf : List UInt8) :
    (ipTtl buf - 1 = 0 ∧ transitVerdict sr (put buf 24 (u16Bytes 0)) =
        .respond (put (put buf 24 (u16Bytes 0)) 22 [ipTtl buf - 1]) 11 0 none) ∨
      (ipTtl buf - 1 ≠ 0 ∧ srLongestPrefixMatch sr (ipDst buf) = none ∧
        transitVerdict sr (put buf 24 (u16Bytes 0)) = .respond (transitCopy buf) 3 0 none) ∨
      (∃ rt entry, ipTtl buf - 1 ≠ 0 ∧ srLongestPrefixMatch sr (ipDst buf) = some rt ∧
        srArpcacheLookup sr.cache rt.gw = some entry ∧
        transitVerdict sr (put buf 24 (u16Bytes 0)) = .forward (transitCopy buf) rt entry) ∨
      (∃ rt, ipTtl buf - 1 ≠ 0 ∧ srLongestPrefixMatch sr (ipDst buf) = some rt ∧
        srArpcacheLookup sr.cache rt.gw = none ∧
        transitVerdict sr (put buf 24 (u16Bytes 0)) = .queue (transitCopy buf) rt) := by
  unfold transitVerdict
  dsimp only
  rw [ipTtl_clearSum, show rewriteTransit (put buf 24 (u16Bytes 0)) = transitCopy buf from rfl,
    ipDst_transitCopy]
  by_cases httl : ipTtl buf - 1 = 0
  · exact .inl ⟨httl, if_pos httl⟩
  rw [if_neg httl]
  cases hrt : srLongestPrefixMatch sr (ipDst buf) with
  | none => exact .inr (.inl ⟨httl, rfl, rfl⟩)
  | some rt =>
      cases hentry : srArpcacheLookup sr.cache rt.gw with
      | none => exact .inr (.inr (.inr ⟨rt, httl, rfl, hentry, by simp [hentry]⟩))
      | some entry =>
          exact .inr (.inr (.inl ⟨rt, entry, httl, rfl, hentry, by simp [hentry]⟩))

/-- A packet that is queued or forwarded is a transit packet. -/
theorem transit_of_verdict {verdict : IpVerdict} (h : ipPacketVerdict sr buf = .ok verdict)
    (hv : (∃ packet rt, verdict = .queue packet rt) ∨
      ∃ packet rt entry, verdict = .forward packet rt entry) : IsTransit sr buf := by
  unfold ipPacketVerdict at h
  split_ifs at h with hlen hsum
  · rcases hv with ⟨_, _, rfl⟩ | ⟨_, _, _, rfl⟩ <;> cases h
  · rcases hv with ⟨_, _, rfl⟩ | ⟨_, _, _, rfl⟩ <;> cases h
  refine ⟨by omega, not_not.mp hsum, ?_⟩
  cases hdst : getDstInterface sr (put buf 24 (u16Bytes 0)) with
  | none => rwa [getDstInterface_clearSum] at hdst
  | some ipInterface =>
      simp only [hdst] at h
      unfold localVerdict at h
      dsimp only at h
      rcases hv with ⟨_, _, rfl⟩ | ⟨_, _, _, rfl⟩ <;> split_ifs at h <;> cases h

/-- What is answered, and with what: an echo request, TCP and UDP to us, and for elsewhere a packet
whose time is up or that has no route. -/
theorem verdict_respond_cases {packet : List UInt8} {type code : UInt8}
    {ipInterface : Option SrIf}
    (h : ipPacketVerdict sr buf = .ok (.respond packet type code ipInterface)) :
    34 ≤ buf.length ∧ HeaderOk buf ∧
      ((∃ iface, getDstInterface sr buf = some iface ∧ ipP buf = 1 ∧ 38 ≤ buf.length ∧
          packet = put (put buf 24 (u16Bytes 0)) 36 (u16Bytes 0) ∧ type = 0 ∧ code = 0 ∧
          ipInterface = some iface) ∨
        (∃ iface, getDstInterface sr buf = some iface ∧ (ipP buf = 6 ∨ ipP buf = 17) ∧
          packet = put buf 24 (u16Bytes 0) ∧ type = 3 ∧ code = 3 ∧ ipInterface = some iface) ∨
        (getDstInterface sr buf = none ∧ ipTtl buf - 1 = 0 ∧
          packet = put (put buf 24 (u16Bytes 0)) 22 [ipTtl buf - 1] ∧ type = 11 ∧ code = 0 ∧
          ipInterface = none) ∨
        (getDstInterface sr buf = none ∧ ipTtl buf - 1 ≠ 0 ∧
          srLongestPrefixMatch sr (ipDst buf) = none ∧ packet = transitCopy buf ∧ type = 3 ∧
          code = 0 ∧ ipInterface = none)) := by
  unfold ipPacketVerdict at h
  split_ifs at h with hlen hsum
  · cases h
  · cases h
  refine ⟨by omega, not_not.mp hsum, ?_⟩
  dsimp only at h
  rw [getDstInterface_clearSum] at h
  cases hdst : getDstInterface sr buf with
  | some iface =>
      simp only [hdst] at h
      unfold localVerdict at h
      rw [ipP_clearSum, length_put] at h
      dsimp only at h
      split_ifs at h with hicmp hshort hbad htype hport <;> cases h
      · exact .inl ⟨iface, rfl, hicmp, by omega, rfl, rfl, rfl, rfl⟩
      · exact .inr (.inl ⟨iface, rfl, hport, rfl, rfl, rfl, rfl⟩)
  | none =>
      simp only [hdst] at h
      rcases transitVerdict_cases sr buf with ⟨httl, hv⟩ | ⟨httl, hrt, hv⟩ |
        ⟨_, _, -, -, -, hv⟩ | ⟨_, -, -, -, hv⟩ <;> rw [hv] at h <;> cases h
      · exact .inr (.inr (.inl ⟨rfl, httl, rfl, rfl, rfl, rfl⟩))
      · exact .inr (.inr (.inr ⟨rfl, httl, hrt, rfl, rfl, rfl, rfl⟩))

/-- A packet is answered as it was received, up to bytes changed in place. -/
theorem length_of_respond {packet : List UInt8} {type code : UInt8} {ipInterface : Option SrIf}
    (h : ipPacketVerdict sr buf = .ok (.respond packet type code ipInterface)) :
    packet.length = buf.length ∧ 34 ≤ buf.length := by
  obtain ⟨hlen, -, ⟨_, -, -, -, rfl, -⟩ | ⟨_, -, -, rfl, -⟩ | ⟨-, -, rfl, -⟩ |
    ⟨-, -, -, rfl, -⟩⟩ := verdict_respond_cases h <;> exact ⟨by simp, hlen⟩

/-- When a packet is queued, and on which request. -/
theorem verdict_queue_iff {packet : List UInt8} {rt : SrRt} :
    ipPacketVerdict sr buf = .ok (.queue packet rt) ↔
      IsTransit sr buf ∧ ipTtl buf - 1 ≠ 0 ∧ srLongestPrefixMatch sr (ipDst buf) = some rt ∧
        srArpcacheLookup sr.cache rt.gw = none ∧ packet = transitCopy buf := by
  constructor
  · intro h
    have ht := transit_of_verdict h (.inl ⟨packet, rt, rfl⟩)
    rw [verdict_of_transit ht] at h
    rcases transitVerdict_cases sr buf with ⟨-, hv⟩ | ⟨-, -, hv⟩ | ⟨_, _, -, -, -, hv⟩ |
      ⟨rt', httl, hrt, hlookup, hv⟩ <;> rw [hv] at h <;> cases h
    exact ⟨ht, httl, hrt, hlookup, rfl⟩
  · rintro ⟨ht, httl, hrt, hlookup, rfl⟩
    rw [verdict_of_transit ht]
    rcases transitVerdict_cases sr buf with ⟨h, -⟩ | ⟨-, h, -⟩ | ⟨_, _, -, h, h', -⟩ |
      ⟨rt', -, h, -, hv⟩
    · exact absurd h httl
    · simp [h] at hrt
    · obtain rfl := Option.some.inj (h.symm.trans hrt)
      simp [h'] at hlookup
    · obtain rfl := Option.some.inj (h.symm.trans hrt)
      rw [hv]

/-- When a packet is forwarded, and along which route. -/
theorem verdict_forward_iff {packet : List UInt8} {rt : SrRt} {entry : SrArpentry} :
    ipPacketVerdict sr buf = .ok (.forward packet rt entry) ↔
      IsTransit sr buf ∧ ipTtl buf - 1 ≠ 0 ∧ srLongestPrefixMatch sr (ipDst buf) = some rt ∧
        srArpcacheLookup sr.cache rt.gw = some entry ∧ packet = transitCopy buf := by
  constructor
  · intro h
    have ht := transit_of_verdict h (.inr ⟨packet, rt, entry, rfl⟩)
    rw [verdict_of_transit ht] at h
    rcases transitVerdict_cases sr buf with ⟨-, hv⟩ | ⟨-, -, hv⟩ |
      ⟨rt', _, httl, hrt, hlookup, hv⟩ | ⟨_, -, -, -, hv⟩ <;> rw [hv] at h <;> cases h
    exact ⟨ht, httl, hrt, hlookup, rfl⟩
  · rintro ⟨ht, httl, hrt, hlookup, rfl⟩
    rw [verdict_of_transit ht]
    rcases transitVerdict_cases sr buf with ⟨h, -⟩ | ⟨-, h, -⟩ | ⟨_, _, -, h, h', hv⟩ |
      ⟨_, -, h, h', -⟩
    · exact absurd h httl
    · simp [h] at hrt
    · obtain rfl := Option.some.inj (h.symm.trans hrt)
      obtain rfl := Option.some.inj (h'.symm.trans hlookup)
      rw [hv]
    · obtain rfl := Option.some.inj (h.symm.trans hrt)
      simp [h'] at hlookup

/-! ### The TTL rule -/

section ttl

variable {sr sr' : SrInstance} {env : Env} {buf : List UInt8} {interface : IfaceName}
  {out : List Effect}

/-- **The TTL rule** for a frame received on an interface: forwarded and queued copies have one
less, which takes at least two; with less than two the packet is answered with time exceeded. A
queued copy is what the flush loop later sends, so its TTL is that of the frame sent. -/
structure TtlSafe (sr : SrInstance) (env : Env) (buf : List UInt8) (interface : IfaceName) :
    Prop where
  /-- Packets forwarded at once. -/
  forwarded : ∀ sr' out p name, handleIpPacket sr env buf interface = .ok (sr', out) →
    .send .forward p name ∈ out →
      2 ≤ (ipTtl buf).toNat ∧ (ipTtl p).toNat = (ipTtl buf).toNat - 1
  /-- Packets queued. -/
  queued : ∀ sr' out ip pkt, handleIpPacket sr env buf interface = .ok (sr', out) →
    .enqueue ip pkt ∈ out →
      2 ≤ (ipTtl buf).toNat ∧ (ipTtl pkt.buf).toNat = (ipTtl buf).toNat - 1
  /-- Packets queued, when they are flushed. -/
  flushed : ∀ sr' out ip pkt, handleIpPacket sr env buf interface = .ok (sr', out) →
    .enqueue ip pkt ∈ out → ∀ iface sha req caller p name,
      flushPacket iface sha req pkt = .ok (.send caller p name) →
      (ipTtl p).toNat = (ipTtl buf).toNat - 1
  /-- Packets whose time is up. -/
  expired : (ipTtl buf).toNat ≤ 1 →
    ∃ sr' out, handleIpPacket sr env buf interface = .ok (sr', out) ∧
    (∃ p name, .send (.icmpResponse 11 0) p name ∈ out ∧ icmpType p = 11 ∧ icmpCode p = 0) ∧
    (∀ p name, .send .forward p name ∉ out) ∧ ∀ ip pkt, .enqueue ip pkt ∉ out

/-- Where an effect of `handle_ip_packet` on a packet comes from. -/
theorem handleIpPacket_effects {e : Effect}
    (h : handleIpPacket sr env buf interface = .ok (sr', out)) (he : e ∈ out) :
    (∃ packet type code ipInterface p, e = .send (.icmpResponse type code) p interface ∧
        ipPacketVerdict sr buf = .ok (.respond packet type code ipInterface) ∧
        env.strayHdr.isSome ∧ (srGetInterface sr interface).isSome) ∨
      (∃ packet rt entry shost dhost,
        e = .send .forward (rewriteEther packet shost dhost) rt.interface ∧
        ipPacketVerdict sr buf = .ok (.forward packet rt entry)) ∨
      (∃ packet rt, e = .enqueue rt.gw (sr.cache.newPacket packet rt.interface) ∧
        ipPacketVerdict sr buf = .ok (.queue packet rt)) ∨
      (∃ req pkt p name, e = .send (.hostUnreachable req pkt) p name) ∨
      ∃ req now p name, e = .send (.arpRequest req now) p name := by
  rcases handleIpPacket_cases h with ⟨-, rfl⟩ |
    ⟨packet, type, code, ipInterface, outInterface, hverdict, hstray, hout, -, rfl⟩ |
    ⟨packet, rt, entry, iface, hverdict, -, -, rfl⟩ | ⟨packet, rt, out₁, hverdict, h₁, rfl⟩
  · cases he
  · exact .inl ⟨packet, type, code, ipInterface, _, List.mem_singleton.mp he, hverdict,
      hstray, by rw [hout]; rfl⟩
  · exact .inr (.inl ⟨packet, rt, entry, _, _, List.mem_singleton.mp he, hverdict⟩)
  rcases List.mem_cons.mp he with rfl | he
  · exact .inr (.inr (.inl ⟨packet, rt, rfl, hverdict⟩))
  obtain ⟨node, -, ⟨-, -, rfl⟩ | ⟨-, -, hgive, -⟩ | ⟨-, -, pkt, iface, -, -, rfl, -⟩⟩ :=
    handleArpreq_cases h₁
  · cases he
  · obtain ⟨pkt, -, iface, -, rfl⟩ := exists_round hgive he
    exact .inr (.inr (.inr (.inl ⟨node, pkt, _, _, rfl⟩)))
  · exact .inr (.inr (.inr (.inr ⟨_, _, _, _, List.mem_singleton.mp he⟩)))

/-- What `handle_ip_packet` forwards is a transit copy whose TTL had not run out. -/
theorem forward_of_handleIpPacket {p : List UInt8} {name : IfaceName}
    (h : handleIpPacket sr env buf interface = .ok (sr', out)) (he : .send .forward p name ∈ out) :
    ipTtl buf - 1 ≠ 0 ∧ ∃ shost dhost, p = rewriteEther (transitCopy buf) shost dhost := by
  rcases handleIpPacket_effects h he with ⟨_, _, _, _, _, he, -⟩ |
    ⟨packet, rt, entry, shost, dhost, he, hverdict⟩ | ⟨_, _, he, -⟩ | ⟨_, _, _, _, he⟩ |
    ⟨_, _, _, _, he⟩ <;> cases he
  obtain ⟨-, httl, -, -, rfl⟩ := verdict_forward_iff.mp hverdict
  exact ⟨httl, _, _, rfl⟩

/-- What `handle_ip_packet` queues is the transit copy, and its TTL had not run out. -/
theorem enqueue_of_handleIpPacket {ip : UInt32} {pkt : SrPacket}
    (h : handleIpPacket sr env buf interface = .ok (sr', out)) (he : .enqueue ip pkt ∈ out) :
    ipTtl buf - 1 ≠ 0 ∧ pkt.buf = transitCopy buf := by
  rcases handleIpPacket_effects h he with ⟨_, _, _, _, _, he, -⟩ | ⟨_, _, _, _, _, he, -⟩ |
    ⟨packet, rt, he, hverdict⟩ | ⟨_, _, _, _, he⟩ | ⟨_, _, _, _, he⟩ <;> cases he
  obtain ⟨-, httl, -, -, rfl⟩ := verdict_queue_iff.mp hverdict
  exact ⟨httl, rfl⟩

/-- A decrement that does not wrap. -/
theorem toNat_sub_one {ttl : UInt8} (h : ttl ≠ 0) : (ttl - 1).toNat = ttl.toNat - 1 := by
  have hle : (1 : UInt8) ≤ ttl := by
    rw [UInt8.le_iff_toNat_le]
    have := UInt8.toNat_inj.not.mpr h
    simp at this ⊢
    omega
  rw [UInt8.toNat_sub_of_le _ _ hle]
  rfl

/-- A TTL of two or more is not used up. -/
theorem sub_one_ne_zero {ttl : UInt8} (h : 2 ≤ ttl.toNat) : ttl - 1 ≠ 0 := by
  intro hzero
  have hne : ttl ≠ 0 := by
    rintro rfl
    exact absurd h (by decide)
  have hval := congrArg UInt8.toNat hzero
  rw [toNat_sub_one hne, UInt8.toNat_zero] at hval
  omega

/-- A transit packet is answered with time exceeded only if its TTL is one, and the answer gets
through. -/
theorem ttl_of_timeExceeded {p : List UInt8} {name : IfaceName} (ht : IsTransit sr buf)
    (h : handleIpPacket sr env buf interface = .ok (sr', out))
    (he : .send (.icmpResponse 11 0) p name ∈ out) :
    ipTtl buf - 1 = 0 ∧ env.strayHdr.isSome ∧ (srGetInterface sr interface).isSome := by
  rcases handleIpPacket_effects h he with ⟨packet, type, code, ipInterface, _, he, hverdict, hif⟩ |
    ⟨_, _, _, _, _, he, -⟩ | ⟨_, _, he, -⟩ | ⟨_, _, _, _, he⟩ | ⟨_, _, _, _, he⟩ <;> cases he
  refine ⟨?_, hif⟩
  rw [verdict_of_transit ht] at hverdict
  rcases transitVerdict_cases sr buf with ⟨httl, -⟩ | ⟨-, -, hv⟩ | ⟨_, _, -, -, -, hv⟩ |
    ⟨_, -, -, -, hv⟩
  · exact httl
  all_goals
    rw [hv] at hverdict
    cases hverdict

/-- A transit packet with TTL one is answered with time exceeded, and that is all. -/
theorem handleIpPacket_ttl_one {outInterface : SrIf} (ht : IsTransit sr buf)
    (httl : ipTtl buf - 1 = 0) (hstray : env.strayHdr.isSome)
    (hout : srGetInterface sr interface = some outInterface) :
    handleIpPacket sr env buf interface = .ok (sr, [.send (.icmpResponse 11 0)
      (icmpResponseFrame outInterface outInterface.ip
        (put (put buf 24 (u16Bytes 0)) 22 [ipTtl buf - 1]) env.after 11 0) interface]) := by
  have hverdict : transitVerdict sr (put buf 24 (u16Bytes 0)) =
      .respond (put (put buf 24 (u16Bytes 0)) 22 [ipTtl buf - 1]) 11 0 none := by
    unfold transitVerdict
    rw [ipTtl_clearSum, if_pos httl]
  have hlen : 34 ≤ (put (put buf 24 (u16Bytes 0)) 22 [ipTtl buf - 1]).length := by
    rw [length_put, length_put]
    exact ht.1
  unfold handleIpPacket
  rw [verdict_of_transit ht, hverdict]
  simp only [bind, Except.bind, sendIcmpResponse_eq hlen hstray hout, Option.getD_none]

/-- **When the TTL rule holds.** For a transit packet it holds exactly if the TTL is not zero
and, where it is one and has to be answered, `send_icmp_response` gets through: the pointer it
never assigned can be read, and the interface the packet came in on exists. -/
theorem ttlSafe_iff (ht : IsTransit sr buf) :
    TtlSafe sr env buf interface ↔
      ipTtl buf ≠ 0 ∧
        (ipTtl buf = 1 → env.strayHdr.isSome ∧ (srGetInterface sr interface).isSome) := by
  have hlen : 34 ≤ buf.length := ht.1
  constructor
  · intro hsafe
    have hone : (ipTtl buf).toNat ≤ 1 → ipTtl buf - 1 = 0 ∧
        env.strayHdr.isSome ∧ (srGetInterface sr interface).isSome := by
      intro hle
      obtain ⟨sr', out, h, ⟨p, name, he, -, -⟩, -⟩ := hsafe.expired hle
      exact ttl_of_timeExceeded ht h he
    constructor
    · intro hzero
      have := (hone (by rw [hzero]; decide)).1
      rw [hzero] at this
      exact absurd this (by decide)
    · intro hone'
      exact (hone (by rw [hone']; decide)).2
  · rintro ⟨hzero, hif⟩
    have hcopy : (ipTtl (transitCopy buf)).toNat = (ipTtl buf).toNat - 1 := by
      rw [ipTtl_transitCopy hlen, toNat_sub_one hzero]
    have htwo : ipTtl buf - 1 ≠ 0 → 2 ≤ (ipTtl buf).toNat := by
      intro httl
      have h := UInt8.toNat_inj.not.mpr httl
      rw [toNat_sub_one hzero, UInt8.toNat_zero] at h
      omega
    constructor
    case forwarded =>
      intro sr' out p name h he
      obtain ⟨httl, shost, dhost, rfl⟩ := forward_of_handleIpPacket h he
      exact ⟨htwo httl, by rw [ipTtl_rewriteEther, hcopy]⟩
    case queued =>
      intro sr' out ip pkt h he
      obtain ⟨httl, hbuf⟩ := enqueue_of_handleIpPacket h he
      exact ⟨htwo httl, by rw [hbuf, hcopy]⟩
    case flushed =>
      intro sr' out ip pkt h he iface sha req caller p name hflush
      obtain ⟨-, hbuf⟩ := enqueue_of_handleIpPacket h he
      obtain ⟨iface', -, hsend⟩ := ok_bind_iff.mp hflush
      obtain ⟨-, rfl, -⟩ := Effect.send.inj (Except.ok.inj hsend)
      rw [ipTtl_rewriteEther, hbuf, hcopy]
    case expired =>
      intro hle
      have hone : ipTtl buf = 1 := by
        have h := UInt8.toNat_inj.not.mpr hzero
        rw [UInt8.toNat_zero] at h
        exact UInt8.toNat_inj.mp (show (ipTtl buf).toNat = 1 by omega)
      obtain ⟨hstray, hout⟩ := hif hone
      obtain ⟨outInterface, hout⟩ := Option.isSome_iff_exists.mp hout
      refine ⟨sr, _, handleIpPacket_ttl_one ht (by rw [hone]; rfl) hstray hout,
        ⟨_, _, List.mem_singleton_self _, icmpType_icmpResponseFrame (by decide)⟩, ?_, ?_⟩
      · intro p name he
        cases List.mem_singleton.mp he
      · intro ip pkt he
        cases List.mem_singleton.mp he

end ttl

/-! ### A two-port router

The concrete router and frames at which the rules of this development are instantiated. -/

/-- `eth1`, `eth2`, … -/
def ethName (n : UInt8) : IfaceName := .ofChars [101, 116, 104, 48 + n]

/-- The hardware address `02:00:00:00:00:n`. -/
def mac (n : UInt8) : EtherAddr := ⟨[2, 0, 0, 0, 0, n], rfl⟩

/-- The address `10.0.net.host`. -/
def netAddr (net host : UInt8) : UInt32 := u32 [10, 0, net, host]

/-- Interface `eth`*n*, `10.0.n.1`. -/
def ethIf (n : UInt8) : SrIf := ⟨ethName n, mac n, netAddr n 1⟩

/-- `10.0.2.0/24` through `10.0.2.2` on `eth2`. -/
def netRoute : SrRt := ⟨netAddr 2 0, netAddr 2 2, u32 [255, 255, 255, 0], ethName 2⟩

/-- Two interfaces and one route. -/
def twoPort : SrInstance := srInit [ethIf 1, ethIf 2] [netRoute]

/-- A UDP packet from `10.0.1.9` to `10.0.net.host`, 42 bytes long. -/
def udpFrame (net host ttl : UInt8) : List UInt8 :=
  putCksum ([2, 0, 0, 0, 0, 1] ++ [2, 0, 0, 0, 1, 9] ++ [8, 0] ++
    [0x45, 0, 0, 28, 0, 0, 0, 0, ttl, 17, 0, 0, 10, 0, 1, 9, 10, 0, net, host] ++
    [0, 7, 0, 7, 0, 8, 0, 0]) 24 14 20

/-- An ARP reply to `eth2`, from the given sender. -/
def replyFrame (sha : EtherAddr) (sip : UInt32) : List UInt8 :=
  (mac 2).bytes ++ sha.bytes ++ [8, 6] ++ [0, 1, 8, 0, 6, 4, 0, 2] ++ sha.bytes ++ u32Bytes sip ++
    (mac 2).bytes ++ u32Bytes (netAddr 2 1)

/-- Every clock shows `now`, the memory past every buffer is zero, and so is the stray field. -/
def stillEnv (now : ℤ) : Env := ⟨now, fun _ => now, fun _ => 0, fun _ _ => 0, some 0⟩

/-- The same, but the stray pointer leads nowhere. -/
def strayEnv (now : ℤ) : Env := { stillEnv now with strayHdr := none }

/-- The node of the first packet the router queues, if it is `udpFrame 2 9 64`. -/
def firstPkt : SrPacket := ⟨0, transitCopy (udpFrame 2 9 64), ethName 2⟩

/-- The request it waits on, sent once at time 1. -/
def firstReq : SrArpreq := ⟨0, netAddr 2 2, 1, 1, [firstPkt]⟩

/-- `udpFrame 2 9 64` arrives on an interface at time 1. -/
def arrivalOn (name : IfaceName) : Input := ⟨stillEnv 1, .packet (udpFrame 2 9 64) name⟩

/-- It arrives on `eth1`. -/
def firstArrival : Input := arrivalOn (ethName 1)

/-- The next hop, at `02:00:00:00:00:16`, replies on an interface at time 2. -/
def replyArrival (name : IfaceName) : Input :=
  ⟨stillEnv 2, .packet (replyFrame (mac 22) (netAddr 2 2)) name⟩

/-- Five timer iterations, a second apart, from time 2 on. -/
def fiveTimers : List Input := [2, 3, 4, 5, 6].map fun now => ⟨stillEnv now, .timer⟩

/-- The first request when it is given up. -/
def lastReq : SrArpreq := ⟨0, netAddr 2 2, 5, 5, [firstPkt]⟩

/-- A packet with TTL two is within the rule. -/
theorem ttlSafe_udpFrame_two : TtlSafe twoPort (stillEnv 1) (udpFrame 2 9 2) (ethName 1) :=
  (ttlSafe_iff (by decide +kernel)).mpr (by decide +kernel)

/-- A packet with TTL zero is not: it is queued to be forwarded with TTL 255. -/
theorem ttl_zero_queued :
    IsTransit twoPort (udpFrame 2 9 0) ∧ ipTtl (udpFrame 2 9 0) = 0 ∧
    (∃ sr' pkt out, handleIpPacket twoPort (stillEnv 1) (udpFrame 2 9 0) (ethName 1) =
      .ok (sr', .enqueue (netAddr 2 2) pkt :: out) ∧ ipTtl pkt.buf = 255) ∧
    ¬ TtlSafe twoPort (stillEnv 1) (udpFrame 2 9 0) (ethName 1) := by
  refine ⟨by decide +kernel, by decide +kernel, ?_, fun hsafe => ?_⟩
  · exact ⟨_, _, _, rfl, by decide +kernel⟩
  · obtain ⟨h2, -⟩ := hsafe.queued _ _ _ _ rfl List.mem_cons_self
    exact absurd h2 (by decide +kernel)

end SimpleRouter
