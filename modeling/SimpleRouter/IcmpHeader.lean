import SimpleRouter.Transit

/-!
# The IP header of generated ICMP messages

Two functions build ICMP messages. `sr_send_icmp_t3` writes every field of the IP header itself;
`send_icmp_response` copies the header of the packet it answers and assigns the TTL, the protocol,
the length, the addresses and the checksum. Version, header length, identification and fragment
fields are the received ones.

`wholeDatagram_iff` — **when an answer is a whole datagram**: exactly if the packet answered has a
plain header (`PlainHeader`), and for an echo reply if its length fits the field. Host unreachable
always is one.
-/

namespace SimpleRouter

open Buffer Machine

/-! ### The fields -/

/-- `ip_v` of a frame. -/
def ipV (p : List UInt8) : UInt8 := p.getD 14 0 >>> 4

/-- `ip_hl` of a frame. -/
def ipHl (p : List UInt8) : UInt8 := p.getD 14 0 &&& 0xf

/-- `ip_len` of a frame, in host byte order. -/
def ipLen (p : List UInt8) : UInt16 := htons (u16 (slice p 16 2))

/-- `ip_off` of a frame, in host byte order. -/
def ipOff (p : List UInt8) : UInt16 := htons (u16 (slice p 20 2))

/-- An IPv4 header without options, of no fragment. -/
@[mk_iff] structure PlainHeader (p : List UInt8) : Prop where
  /-- The version. -/
  version : ipV p = 4
  /-- The header length, in words. -/
  headerLength : ipHl p = 5
  /-- `IP_MF`. -/
  noMoreFragments : ipOff p &&& 0x2000 = 0
  /-- `IP_OFFMASK`. -/
  offset : ipOff p &&& 0x1fff = 0

/-- **The frame is a whole datagram.** -/
structure WholeDatagram (p : List UInt8) : Prop extends PlainHeader p where
  /-- The length is that of the frame. -/
  length : (ipLen p).toNat = p.length - 14

instance (p : List UInt8) : Decidable (PlainHeader p) :=
  decidable_of_iff _ (plainHeader_iff p).symm

section congr

variable {p q : List UInt8}

/-- Equal windows have equal bytes. -/
theorem getD_of_slice {i : ℕ} (h : slice p i 1 = slice q i 1) : p.getD i 0 = q.getD i 0 := by
  rw [List.getD_eq_getElem?_getD, List.getD_eq_getElem?_getD, ← getElem?_slice_zero Nat.one_pos, h,
    getElem?_slice_zero Nat.one_pos]

/-- Whether a header is plain depends on two of its windows. -/
theorem plainHeader_congr (h₁ : slice p 14 1 = slice q 14 1) (h₂ : slice p 20 2 = slice q 20 2) :
    PlainHeader p ↔ PlainHeader q := by
  have hbyte := getD_of_slice h₁
  have hv : ipV p = ipV q := by rw [ipV, ipV, hbyte]
  have hhl : ipHl p = ipHl q := by rw [ipHl, ipHl, hbyte]
  have hoff : ipOff p = ipOff q := by rw [ipOff, ipOff, h₂]
  rw [plainHeader_iff, plainHeader_iff, hv, hhl, hoff]

end congr

/-! ### The two builders -/

section builders

variable {outInterface iface : SrIf} {ip : UInt32} {packet : List UInt8} {after : ℕ → UInt8}
  {type code : UInt8}

/-- The header written from scratch. -/
theorem wholeDatagram_icmpT3Frame : WholeDatagram (icmpT3Frame iface packet after type code) := by
  have hfirst : slice (icmpT3Frame iface packet after type code) 14 1 = [0x45] := by
    unfold icmpT3Frame putIcmpT3
    simp (disch := simp) only [slice_put_of_disjoint, slice_putCksum_of_disjoint, slice_put_same]
  have hlen : slice (icmpT3Frame iface packet after type code) 16 2 = u16Bytes (htons 56) := by
    unfold icmpT3Frame putIcmpT3
    simp (disch := simp) only [slice_put_of_disjoint, slice_putCksum_of_disjoint, slice_put_same]
  have hoff : slice (icmpT3Frame iface packet after type code) 20 2 = u16Bytes (htons 0x4000) := by
    unfold icmpT3Frame putIcmpT3
    simp (disch := simp) only [slice_put_of_disjoint, slice_putCksum_of_disjoint, slice_put_same]
  have hbyte : (icmpT3Frame iface packet after type code).getD 14 0 = 0x45 := by
    rw [List.getD_eq_getElem?_getD, ← getElem?_slice_zero Nat.one_pos, hfirst]
    rfl
  refine ⟨⟨?_, ?_, ?_, ?_⟩, ?_⟩
  · rw [ipV, hbyte]
    decide
  · rw [ipHl, hbyte]
    decide
  · rw [ipOff, hoff]
    decide
  · rw [ipOff, hoff]
    decide
  · rw [ipLen, hlen, length_icmpT3Frame]
    decide

/-- The header copied from the packet answered. -/
theorem wholeDatagram_icmpResponseFrame (h : 34 ≤ packet.length) :
    WholeDatagram (icmpResponseFrame outInterface ip packet after type code) ↔
      PlainHeader packet ∧ (type = 0 → packet.length < 65550) := by
  have hplain : PlainHeader (icmpResponseFrame outInterface ip packet after type code) ↔
      PlainHeader packet :=
    plainHeader_congr (slice_icmpResponseFrame_inherited h (.inl (by omega)))
      (slice_icmpResponseFrame_inherited h (.inr (by omega)))
  have hlen : (ipLen (icmpResponseFrame outInterface ip packet after type code)).toNat =
      (icmpResponseFrame outInterface ip packet after type code).length - 14 ↔
      (type = 0 → packet.length < 65550) := by
    rw [ipLen, u16_ipLen_icmpResponseFrame h, htons_htons, UInt16.toNat_ofNat',
      length_icmpResponseFrame]
    split_ifs with htype
    · rw [imp_iff_right htype]
      omega
    · exact iff_of_true rfl fun h => absurd h htype
  rw [← hplain, ← hlen]
  exact ⟨fun hw => ⟨hw.toPlainHeader, hw.length⟩, fun hw => ⟨hw.1, hw.2⟩⟩

end builders

/-! ### The answers -/

section answers

variable {sr sr' : SrInstance} {env : Env} {buf packet : List UInt8} {interface : IfaceName}
  {type code : UInt8} {ipInterface : Option SrIf}

/-- What is answered has the version and the fragment fields received. -/
theorem slice_of_respond (h : ipPacketVerdict sr buf = .ok (.respond packet type code ipInterface))
    {i n : ℕ} (hi : i + n ≤ 22) : slice packet i n = slice buf i n := by
  obtain ⟨-, -, ⟨_, -, -, -, rfl, -⟩ | ⟨_, -, -, rfl, -⟩ | ⟨-, -, rfl, -⟩ | ⟨-, -, -, rfl, -⟩⟩ :=
    verdict_respond_cases h
  · rw [slice_put_of_disjoint (by omega), slice_put_of_disjoint (by omega)]
  · rw [slice_put_of_disjoint (by omega)]
  · rw [slice_put_of_disjoint (by omega), slice_put_of_disjoint (by omega)]
  · exact slice_transitCopy (by omega)

/-- An answer is an echo reply exactly if the packet is ICMP and to us. -/
theorem type_eq_zero_iff
    (h : ipPacketVerdict sr buf = .ok (.respond packet type code ipInterface)) :
    type = 0 ↔ getDstInterface sr buf ≠ none ∧ ipP buf = 1 := by
  obtain ⟨-, -, ⟨_, hdst, hp, -, -, rfl, -⟩ | ⟨_, hdst, hp, -, rfl, -⟩ | ⟨hdst, -, -, rfl, -⟩ |
    ⟨hdst, -, -, -, rfl, -⟩⟩ := verdict_respond_cases h
  · exact iff_of_true rfl ⟨by rw [hdst]; exact Option.some_ne_none _, hp⟩
  · refine iff_of_false (by decide) fun hicmp => ?_
    rw [hicmp.2] at hp
    exact absurd hp (by decide)
  · exact iff_of_false (by decide) fun hicmp => hicmp.1 hdst
  · exact iff_of_false (by decide) fun hicmp => hicmp.1 hdst

/-- An answer sent is what `send_icmp_response` builds for the packet as it is then. -/
theorem frame_of_icmpResponse {out : List Effect} {p : List UInt8} {name : IfaceName}
    (h : handleIpPacket sr env buf interface = .ok (sr', out))
    (he : .send (.icmpResponse type code) p name ∈ out) :
    ∃ packet ipInterface outInterface,
      ipPacketVerdict sr buf = .ok (.respond packet type code ipInterface) ∧
      p = icmpResponseFrame outInterface (ipInterface.getD outInterface).ip packet env.after type
        code := by
  rcases handleIpPacket_effects h he with ⟨packet, _, _, ipInterface, _, heq, hverdict, -⟩ |
    ⟨_, _, _, _, _, heq, -⟩ | ⟨_, _, heq, -⟩ | ⟨_, _, _, _, heq⟩ | ⟨_, _, _, _, heq⟩ <;> cases heq
  rcases handleIpPacket_cases h with ⟨-, rfl⟩ |
    ⟨_, _, _, _, outInterface, hverdict', -, -, -, rfl⟩ | ⟨_, _, _, _, hverdict', -⟩ |
    ⟨_, _, _, hverdict', -⟩
  · cases he
  · rw [hverdict] at hverdict'
    cases hverdict'
    exact ⟨packet, ipInterface, outInterface, hverdict,
      (Effect.send.inj (List.mem_singleton.mp he)).2.1⟩
  · rw [hverdict] at hverdict'
    cases hverdict'
  · rw [hverdict] at hverdict'
    cases hverdict'

/-- **When generated ICMP messages are whole datagrams.** An answer to a received frame is one
exactly if the frame has a plain header and, where it is an echo request to us, a length that fits;
host unreachable always is. -/
theorem wholeDatagram_iff (sr : SrInstance) :
    (∀ env buf interface sr' out type code p name,
      handleIpPacket sr env buf interface = .ok (sr', out) →
      .send (.icmpResponse type code) p name ∈ out →
        (WholeDatagram p ↔ PlainHeader buf ∧
          (getDstInterface sr buf ≠ none ∧ ipP buf = 1 → buf.length < 65550))) ∧
    ∀ i sr' out req pkt p name, step sr i = .ok (sr', out) →
      .send (.hostUnreachable req pkt) p name ∈ out → WholeDatagram p := by
  constructor
  · intro env buf interface sr' out type code p name h he
    obtain ⟨packet, ipInterface, outInterface, hverdict, hp⟩ := frame_of_icmpResponse h he
    obtain ⟨hlen, h34⟩ := length_of_respond hverdict
    have hplain : PlainHeader packet ↔ PlainHeader buf :=
      plainHeader_congr (slice_of_respond hverdict (by omega))
        (slice_of_respond hverdict (by omega))
    rw [hp, wholeDatagram_icmpResponseFrame (by omega), hplain, hlen, type_eq_zero_iff hverdict]
  · intro i sr' out req pkt p name h he
    obtain ⟨s₁, o, s₂, ha, he⟩ := (step_refines _ _ _ _ h).exists_action he
    obtain ⟨iface, -, hp, -⟩ := (ha.emits he).unreachable
    rw [hp]
    exact wholeDatagram_icmpT3Frame

end answers

/-- Port unreachable for a UDP packet, and host unreachable for a queued one. -/
theorem wholeDatagram_twoPort :
    (∃ sr' out p, handleIpPacket twoPort (stillEnv 1) (udpFrame 1 1 64) (ethName 1) =
        .ok (sr', out) ∧ .send (.icmpResponse 3 3) p (ethName 1) ∈ out ∧ WholeDatagram p) ∧
    ∃ sr sr' out p, step sr ⟨stillEnv 6, .arpreq 0⟩ = .ok (sr', out) ∧
      .send (.hostUnreachable lastReq firstPkt) p (ethName 2) ∈ out ∧ WholeDatagram p := by
  constructor
  · have h : handleIpPacket twoPort (stillEnv 1) (udpFrame 1 1 64) (ethName 1) = .ok (_, [_]) := rfl
    refine ⟨_, _, _, h, List.mem_cons_self, ?_⟩
    refine ((wholeDatagram_iff _).1 _ _ _ _ _ 3 3 _ _ h List.mem_cons_self).mpr ⟨?_, fun _ => ?_⟩
    · decide +kernel
    · decide +kernel
  · have h : step { twoPort with cache.requests := [lastReq] } ⟨stillEnv 6, .arpreq 0⟩ =
        .ok (_, [_]) := rfl
    refine ⟨_, _, _, _, h, List.mem_cons_self, ?_⟩
    exact (wholeDatagram_iff _).2 _ _ _ lastReq firstPkt _ _ h List.mem_cons_self

/-- The first fragment of a UDP packet to `10.0.1.1`. -/
def firstFragment : List UInt8 := putCksum (put (udpFrame 1 1 64) 20 [0x20, 0]) 24 14 20

/-- The port unreachable that answers it says that more fragments follow. -/
theorem answer_as_fragment : ∃ sr' out p,
    handleIpPacket twoPort (stillEnv 1) firstFragment (ethName 1) = .ok (sr', out) ∧
    .send (.icmpResponse 3 3) p (ethName 1) ∈ out ∧ ¬ WholeDatagram p := by
  refine ⟨_, _, _, rfl, List.mem_cons_self, fun hwhole => ?_⟩
  exact absurd hwhole.noMoreFragments (by decide +kernel)

end SimpleRouter
