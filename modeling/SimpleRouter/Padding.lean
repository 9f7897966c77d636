import SimpleRouter.EchoReply
import SimpleRouter.HeaderCheck
import SimpleRouter.IcmpHeader

/-!
# Padding behind an echo request

A frame can be longer than the datagram it carries; `ip_len` says where the datagram ends. The
router does not read `ip_len`: the ICMP check runs to the end of the frame, and the reply is as
long as the frame and says so in its own `ip_len`.

* `icmpOk_padded_iff` — the check accepts the request with padding exactly if the padding adds
  nothing to the ones' complement sum (`Silent`).
* `sameAnswer_iff` — **two frames with one request are answered alike exactly if** neither is padded
  and both replies get through, or both frames are dropped for their padding; a request with a zero
  in a checksum field is dropped whatever is behind it.
-/

namespace SimpleRouter

open Buffer OnesComplement

/-! ### Requests and answers -/

/-- `icmp_sum` of a frame. -/
def icmpSum (p : List UInt8) : UInt16 := u16 (slice p 36 2)

/-- **A valid echo request to the router**, in a frame that ends where its datagram ends. -/
structure EchoDatagram (sr : SrInstance) (d : List UInt8) : Prop where
  /-- The frame ends with the datagram. -/
  length : d.length = 14 + (ipLen d).toNat
  /-- There is room for both headers. -/
  headers : 28 ≤ (ipLen d).toNat
  /-- It is IP. -/
  ethertype : htons (u16 (slice d 12 2)) = 0x0800
  /-- The header checksum is valid. -/
  header : Valid (ipHdr d)
  /-- It is addressed to one of the interfaces. -/
  toUs : ∃ iface ∈ sr.ifList, iface.ip = ipDst d
  /-- The protocol is ICMP. -/
  icmp : ipP d = 1
  /-- The type is echo request. -/
  type : icmpType d = 8
  /-- The ICMP checksum is valid. -/
  message : Valid (icmpPart d)

/-- **The answers are the same**: none to either frame, or an echo reply to both, and the `n` bytes
of the datagrams agree. A run that ends in a fault is not an answer, nor is it none. -/
inductive SameAnswer (sr : SrInstance) (n : ℕ) : Except Fault (SrInstance × List Effect) →
    Except Fault (SrInstance × List Effect) → Prop
  /-- Nothing is sent. -/
  | neither : SameAnswer sr n (.ok (sr, [])) (.ok (sr, []))
  /-- Both are answered. -/
  | both (p q : List UInt8) (name₁ name₂ : IfaceName) (hp : (ipLen p).toNat = n)
      (hq : (ipLen q).toNat = n) (h : slice p 14 n = slice q 14 n) :
      SameAnswer sr n (.ok (sr, [.send (.icmpResponse 0 0) p name₁]))
        (.ok (sr, [.send (.icmpResponse 0 0) q name₂]))

/-- The padding behind `d` adds nothing to the sum: its words, which begin with a low byte if `d`
has an odd length, add up to a zero of ones' complement. -/
def Silent (d padding : List UInt8) : Prop :=
  (words (if d.length % 2 = 0 then padding else 0 :: padding)).sum % 65535 = 0

instance (d padding : List UInt8) : Decidable (Silent d padding) :=
  inferInstanceAs (Decidable (_ = _))

section padding

variable {sr : SrInstance} {env env₁ env₂ : Env} {d padding padding₁ padding₂ : List UInt8}
  {name name₁ name₂ : IfaceName} {iface : SrIf}

/-! ### The checks -/

theorem EchoDatagram.le_length (h : EchoDatagram sr d) : 42 ≤ d.length := by
  have hlen := h.length
  have hheaders := h.headers
  omega

/-- The header check looks at the datagram only, and accepts it unless the field is zero. -/
theorem headerOk_padded_iff (h : EchoDatagram sr d) :
    HeaderOk (d ++ padding) ↔ ipSum d ≠ 0 := by
  have hlen := h.le_length
  obtain ⟨hi, lo, hfield⟩ := exists_sumField (show 34 ≤ d.length by omega)
  have hclear : ipHdr (put (d ++ padding) 24 (u16Bytes 0)) = ipHdr (clearSum d) ++ [] := by
    unfold ipHdr clearSum
    rw [put_append_left (by rw [length_u16Bytes]; omega),
      slice_append_left (by rw [length_put]; omega), List.append_nil]
  have hvalid : residue ((words (ipHdr (clearSum d))).sum + (hi.toNat * 256 + lo.toNat)) =
      65535 := by
    rw [← sum_words_ipHdr (by omega) hfield]
    exact (valid_iff _).mp h.header
  have hshort : (ipHdr (clearSum d) ++ []).length ≤ 131074 := by
    rw [List.append_nil, ipHdr, length_slice]
    omega
  rw [HeaderOk, hclear, ipSum, ipSum, slice_append_left (by omega), hfield,
    u16_eq_cksum_append_iff hshort hvalid]
  refine and_iff_left ?_
  split_ifs <;> rfl

/-- The bytes of a frame from the ICMP header on are the rest of the frame. -/
theorem icmpPart_eq_drop (p : List UInt8) : icmpPart p = p.drop 34 :=
  List.take_of_length_le (List.length_drop ..).le

/-- **The ICMP check runs over the padding**: it accepts the request exactly if the padding is
silent and the field is not zero. -/
theorem icmpOk_padded_iff (h : EchoDatagram sr d) (hlen : (d ++ padding).length < 65550) :
    IcmpOk (d ++ padding) ↔ icmpSum d ≠ 0 ∧ Silent d padding := by
  have hd := h.le_length
  obtain ⟨hi, lo, hfield⟩ : ∃ hi lo, slice d 36 2 = [hi, lo] :=
    List.length_eq_two.mp (by rw [length_slice]; omega)
  -- the bytes the check adds up are those of the datagram, and the padding
  have hpart : icmpPart (put (d ++ padding) 36 (u16Bytes 0)) =
      icmpPart (put d 36 (u16Bytes 0)) ++ padding := by
    rw [put_append_left (by rw [length_u16Bytes]; omega), icmpPart_eq_drop, icmpPart_eq_drop,
      List.drop_append_of_le_length (by rw [length_put]; omega)]
  have hparity : (icmpPart (put d 36 (u16Bytes 0))).length % 2 = d.length % 2 := by
    rw [icmpPart_eq_drop, List.length_drop, length_put]
    omega
  have hvalid : residue ((words (icmpPart (put d 36 (u16Bytes 0)))).sum +
      (hi.toNat * 256 + lo.toNat)) = 65535 := by
    have hsum : (words (icmpPart d)).sum =
        (words (slice (put d 36 [0, 0]) 34 (d.length - 34))).sum + (hi.toNat * 256 + lo.toNat) :=
      sum_words_slice (by omega) (by omega) (by omega) (by omega) hfield
    rw [icmpPart, length_put]
    exact hsum ▸ (valid_iff _).mp h.message
  have hshort : (icmpPart (put d 36 (u16Bytes 0)) ++ padding).length ≤ 131074 := by
    rw [List.length_append] at hlen ⊢
    rw [icmpPart, length_slice, length_put]
    omega
  rw [IcmpOk, hpart, icmpSum, slice_append_left (by omega), hfield,
    u16_eq_cksum_append_iff hshort hvalid, hparity, Silent]

/-! ### The answer to a padded request -/

/-- **What the router does with a padded request.** -/
theorem srHandlepacket_padded (h : EchoDatagram sr d) (hlen : (d ++ padding).length < 65550)
    (hiface : srGetInterface sr name = some iface) :
    srHandlepacket sr env (d ++ padding) name =
      if ipSum d ≠ 0 ∧ icmpSum d ≠ 0 ∧ Silent d padding then
        if env.strayHdr.isSome then
          .ok (sr, [.send (.icmpResponse 0 0) (icmpResponseFrame iface (ipDst d)
            (clearSums (d ++ padding)) env.after 0 0) name])
        else .error .strayRead
      else .ok (sr, []) := by
  have hd := h.le_length
  have hlen38 : 38 ≤ (d ++ padding).length := by
    rw [List.length_append]
    omega
  have htype : ethertype (d ++ padding) env.after = 0x0800 := by
    rw [ethertype_eq (by omega), slice_append_left (by omega)]
    exact h.ethertype
  have hdst : ipDst (d ++ padding) = ipDst d := by
    rw [ipDst, slice_append_left (by omega), ipDst]
  have hp : ipP (d ++ padding) = 1 :=
    (getD_of_slice (slice_append_left (by omega))).trans h.icmp
  have hicmpType : icmpType (d ++ padding) = 8 :=
    (getD_of_slice (slice_append_left (by omega))).trans h.type
  have htoUs : ∃ iface ∈ sr.ifList, iface.ip = ipDst (d ++ padding) := hdst ▸ h.toUs
  obtain ⟨addressed, -, haddressed⟩ := getDstInterface_of_toUs htoUs
  by_cases hheader : HeaderOk (d ++ padding)
  · have hsum := (headerOk_padded_iff h).mp hheader
    by_cases hicmp : IcmpOk (d ++ padding)
    · have hrequest : EchoRequest sr env (d ++ padding) :=
        ⟨hlen38, htype, hheader, htoUs, hp, hicmpType, hicmp⟩
      rw [if_pos ⟨hsum, (icmpOk_padded_iff h hlen).mp hicmp⟩]
      by_cases hstray : env.strayHdr.isSome
      · rw [srHandlepacket_of_echoRequest hrequest hstray hiface, hdst, if_pos hstray]
      · rw [srHandlepacket_stray hrequest (Option.not_isSome_iff_eq_none.mp hstray),
          if_neg hstray]
    · rw [if_neg fun hok => hicmp ((icmpOk_padded_iff h hlen).mpr hok.2), srHandlepacket,
        if_pos htype, handleIpPacket, verdict_of_icmp hlen38 hheader haddressed hp,
        if_neg fun hok => hicmp hok.1]
      rfl
  · have hdrop : ipPacketVerdict sr (d ++ padding) = .ok .drop := by
      rw [ipPacketVerdict, if_neg (by omega)]
      exact if_pos hheader
    rw [if_neg fun hok => hheader ((headerOk_padded_iff h).mpr hok.1), srHandlepacket, if_pos htype,
      handleIpPacket, hdrop]
    rfl

/-- The datagram of an echo reply does not depend on where it leaves. -/
theorem slice_echoReply_datagram (iface₁ iface₂ : SrIf) (ip : UInt32) (packet : List UInt8)
    (after₁ after₂ : ℕ → UInt8) (n : ℕ) :
    slice (icmpResponseFrame iface₁ ip packet after₁ 0 0) 14 n =
      slice (icmpResponseFrame iface₂ ip packet after₂ 0 0) 14 n := by
  have haddr₁ := iface₁.addr.length_eq
  have haddr₂ := iface₂.addr.length_eq
  have hshost : (etherShost packet).length ≤ 6 := by
    rw [etherShost, length_slice]
    omega
  unfold icmpResponseFrame
  dsimp only
  rw [slice_put_of_disjoint (.inr (by rw [length_u16Bytes])), slice_put_of_disjoint (by omega),
    slice_put_of_disjoint (by omega), slice_put_of_disjoint (.inr (by rw [length_u16Bytes])),
    slice_put_of_disjoint (by omega), slice_put_of_disjoint (by omega)]
  rfl

/-- The reply says the length of the frame. -/
theorem ipLen_echoReply (h : EchoDatagram sr d) (hlen : (d ++ padding).length < 65550)
    {after : ℕ → UInt8} :
    (ipLen (icmpResponseFrame iface (ipDst d) (clearSums (d ++ padding)) after 0 0)).toNat =
      (ipLen d).toNat + padding.length := by
  have hd := h.le_length
  have hl := h.length
  rw [List.length_append] at hlen
  rw [ipLen, u16_ipLen_icmpResponseFrame (by rw [length_clearSums, List.length_append]; omega),
    htons_htons, length_icmpResponseFrame, if_pos rfl, length_clearSums, List.length_append,
    UInt16.toNat_ofNat']
  omega

/-- When two replies are the same answer. -/
theorem sameAnswer_replies_iff {n : ℕ} {p q : List UInt8} :
    SameAnswer sr n (.ok (sr, [.send (.icmpResponse 0 0) p name₁]))
        (.ok (sr, [.send (.icmpResponse 0 0) q name₂])) ↔
      (ipLen p).toNat = n ∧ (ipLen q).toNat = n ∧ slice p 14 n = slice q 14 n := by
  constructor
  · intro hsame
    cases hsame with
    | both _ _ _ _ hp hq h => exact ⟨hp, hq, h⟩
  · rintro ⟨hp, hq, h⟩
    exact .both p q name₁ name₂ hp hq h

/-- A reply, a fault and silence are three different outcomes; only replies and silences agree. -/
theorem sameAnswer_outcomes_iff {n : ℕ} {p q : List UInt8} {A B : Prop} [Decidable A] [Decidable B]
    {s t : Bool} :
    SameAnswer sr n
        (if A then if s then .ok (sr, [.send (.icmpResponse 0 0) p name₁]) else .error .strayRead
          else .ok (sr, []))
        (if B then if t then .ok (sr, [.send (.icmpResponse 0 0) q name₂]) else .error .strayRead
          else .ok (sr, [])) ↔
      ¬ A ∧ ¬ B ∨ (A ∧ B) ∧ (s ∧ t) ∧
        (ipLen p).toNat = n ∧ (ipLen q).toNat = n ∧ slice p 14 n = slice q 14 n := by
  constructor
  · intro hsame
    by_cases hnone : ¬ A ∧ ¬ B
    · exact .inl hnone
    split_ifs at hsame with hA hs hB ht
    · obtain ⟨hp, hq, h⟩ := sameAnswer_replies_iff.mp hsame
      exact .inr ⟨⟨hA, hB⟩, ⟨hs, ht⟩, hp, hq, h⟩
    all_goals first
      | exact absurd ⟨‹¬ A›, ‹¬ B›⟩ hnone
      | cases hsame
  · rintro (⟨hA, hB⟩ | ⟨⟨hA, hB⟩, ⟨hs, ht⟩, hp, hq, h⟩)
    · rw [if_neg hA, if_neg hB]
      exact .neither
    · rw [if_pos hA, if_pos hB, if_pos hs, if_pos ht]
      exact sameAnswer_replies_iff.mpr ⟨hp, hq, h⟩

/-- **Padding.** Two frames that carry one valid echo request are answered alike exactly if neither
is padded and the stray pointer can be read on both runs, or neither is answered. -/
theorem sameAnswer_iff (h : EchoDatagram sr d) (hlen₁ : (d ++ padding₁).length < 65550)
    (hlen₂ : (d ++ padding₂).length < 65550) (hname₁ : name₁ ∈ sr.ifList.map SrIf.name)
    (hname₂ : name₂ ∈ sr.ifList.map SrIf.name) :
    SameAnswer sr (ipLen d).toNat (srHandlepacket sr env₁ (d ++ padding₁) name₁)
        (srHandlepacket sr env₂ (d ++ padding₂) name₂) ↔
      (padding₁ = [] ∧ padding₂ = [] ∧ env₁.strayHdr.isSome ∧ env₂.strayHdr.isSome) ∨
        ¬ Silent d padding₁ ∧ ¬ Silent d padding₂ ∨ ipSum d = 0 ∨ icmpSum d = 0 := by
  obtain ⟨iface₁, hiface₁⟩ := Option.ne_none_iff_exists'.mp (srGetInterface_ne_none_iff.mpr hname₁)
  obtain ⟨iface₂, hiface₂⟩ := Option.ne_none_iff_exists'.mp (srGetInterface_ne_none_iff.mpr hname₂)
  rw [srHandlepacket_padded h hlen₁ hiface₁, srHandlepacket_padded h hlen₂ hiface₂]
  rw [sameAnswer_outcomes_iff, ipLen_echoReply h hlen₁, ipLen_echoReply h hlen₂]
  constructor
  · rintro (⟨hdrop₁, hdrop₂⟩ | ⟨-, hread, hp, hq, -⟩)
    · by_cases hsum : ipSum d = 0
      · exact .inr (.inr (.inl hsum))
      by_cases hicmp : icmpSum d = 0
      · exact .inr (.inr (.inr hicmp))
      · exact .inr (.inl ⟨fun hs => hdrop₁ ⟨hsum, hicmp, hs⟩, fun hs => hdrop₂ ⟨hsum, hicmp, hs⟩⟩)
    · exact .inl ⟨List.length_eq_zero_iff.mp (by omega), List.length_eq_zero_iff.mp (by omega),
        hread⟩
  · rintro (⟨rfl, rfl, hread⟩ | ⟨hloud₁, hloud₂⟩ | hzero | hzero)
    · by_cases hok : ipSum d ≠ 0 ∧ icmpSum d ≠ 0 ∧ Silent d []
      · rw [List.length_nil, Nat.add_zero]
        exact .inr ⟨⟨hok, hok⟩, hread, rfl, rfl, slice_echoReply_datagram ..⟩
      · exact .inl ⟨hok, hok⟩
    · exact .inl ⟨fun hok => hloud₁ hok.2.2, fun hok => hloud₂ hok.2.2⟩
    · exact .inl ⟨fun hok => hok.1 hzero, fun hok => hok.1 hzero⟩
    · exact .inl ⟨fun hok => hok.2.1 hzero, fun hok => hok.2.1 hzero⟩

end padding

/-- An echo request without padding. -/
theorem echoDatagram_pingFrame : EchoDatagram twoPort pingFrame :=
  ⟨by decide +kernel, by decide +kernel, by decide +kernel, by decide +kernel,
    ⟨ethIf 2, by decide +kernel, by decide +kernel⟩, by decide +kernel, by decide +kernel,
    by decide +kernel⟩

/-- Received on both interfaces without padding, it is answered alike. -/
theorem sameAnswer_pingFrame : SameAnswer twoPort (ipLen pingFrame).toNat
    (srHandlepacket twoPort (stillEnv 1) (pingFrame ++ []) (ethName 1))
    (srHandlepacket twoPort (stillEnv 2) (pingFrame ++ []) (ethName 2)) :=
  (sameAnswer_iff echoDatagram_pingFrame (by decide +kernel) (by decide +kernel) (by decide +kernel)
    (by decide +kernel)).mpr (.inl ⟨rfl, rfl, rfl, rfl⟩)

/-- Two zero bytes behind it change the answer: the reply is two bytes longer and says so. -/
theorem padded_pingFrame : EchoDatagram twoPort pingFrame ∧
    ¬ SameAnswer twoPort (ipLen pingFrame).toNat
      (srHandlepacket twoPort (stillEnv 1) (pingFrame ++ []) (ethName 1))
      (srHandlepacket twoPort (stillEnv 1) (pingFrame ++ [0, 0]) (ethName 1)) := by
  refine ⟨echoDatagram_pingFrame, fun hsame => ?_⟩
  have hiface : srGetInterface twoPort (ethName 1) = some (ethIf 1) := by decide +kernel
  have hshort : (pingFrame ++ [0, 0]).length < 65550 := by decide +kernel
  have hok : ipSum pingFrame ≠ 0 ∧ icmpSum pingFrame ≠ 0 ∧ Silent pingFrame [] := by decide +kernel
  rw [srHandlepacket_padded echoDatagram_pingFrame (by decide +kernel) hiface,
    srHandlepacket_padded echoDatagram_pingFrame hshort hiface, sameAnswer_outcomes_iff,
    ipLen_echoReply echoDatagram_pingFrame hshort] at hsame
  rcases hsame with ⟨hdrop, -⟩ | ⟨-, -, -, hlen, -⟩
  · exact hdrop hok
  · exact absurd hlen (Nat.ne_of_gt (Nat.lt_add_of_pos_right (by decide)))

end SimpleRouter
