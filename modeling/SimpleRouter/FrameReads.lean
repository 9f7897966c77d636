import SimpleRouter.VnsComm
import SimpleRouter.Transit

/-!
# What packet handling reads of a frame

The handlers of `Router.lean` again, as `Logged` computations: the log has the window of every read
of the frame, in the order of the source, and the value is that of the handler (`val_…`). The
sanity check asks for the 34 bytes of the two headers; the ICMP header and the 28 bytes an ICMP
error quotes end at byte 42.

`readsInside_iff` — **when no byte past the end of an IP frame is read**, on arrival and when its
queued copy is given up: for every frame that is not taken or has 42 bytes, and of the shorter ones
for those `StaysInside` lists.
-/

namespace SimpleRouter

open Buffer Logged

/-- The bytes `[off, off + len)` of a frame. -/
structure Window where
  /-- The first byte. -/
  off : ℕ
  /-- How many. -/
  len : ℕ
deriving DecidableEq

/-- The window ends where a frame of `n` bytes ends, or before. -/
def Window.Within (n : ℕ) (w : Window) : Prop := w.off + w.len ≤ n

instance (n : ℕ) (w : Window) : Decidable (w.Within n) := inferInstanceAs (Decidable (_ ≤ _))

/-- Computations that log their reads of a frame. -/
abbrev Reading := Logged Window Fault

namespace Reading

/-! ### The handlers -/

/-- Dereference a pointer that may be null. -/
def deref {α : Type} (o : Option α) : Reading α := ⟨[], SimpleRouter.deref o⟩

/-- Read a field through a pointer that was never assigned. It does not point into the frame. -/
def readStray {α : Type} (o : Option α) : Reading α := ⟨[], SimpleRouter.readStray o⟩

/-- The window a read of the source covers. -/
def read (off len : ℕ) : Reading Unit := tell ⟨off, len⟩

/-- Source: `sr_router.c`, `handle_ip_packet`, the branch `ip_interface != NULL` -/
def localVerdict (packet : List UInt8) (ipInterface : SrIf) : Reading IpVerdict := do
  read 23 1
  if ipP packet = 1 then do
    read 36 2
    if packet.length < 38 then stop .outOfBounds
    else do
      let icmpSum := u16 (slice packet 36 2)
      let packet := put packet 36 (u16Bytes 0)
      read 34 (packet.length - 34)
      if cksum (icmpPart packet) ≠ icmpSum then pure .drop
      else do
        read 34 1
        if icmpType packet ≠ 8 then pure .drop
        else pure (.respond packet 0 0 (some ipInterface))
  else if ipP packet = 6 ∨ ipP packet = 17 then pure (.respond packet 3 3 (some ipInterface))
  else pure .drop

/-- Source: `sr_router.c`, `handle_ip_packet`, the branch `ip_interface == NULL` -/
def transitVerdict (sr : SrInstance) (packet : List UInt8) : Reading IpVerdict := do
  read 22 1
  if ipTtl packet - 1 = 0 then pure (.respond (put packet 22 [ipTtl packet - 1]) 11 0 none)
  else do
    read 14 20
    let packet := rewriteTransit packet
    read 30 4
    match srLongestPrefixMatch sr (ipDst packet) with
    | none => pure (.respond packet 3 0 none)
    | some rt =>
        match srArpcacheLookup sr.cache rt.gw with
        | some entry => pure (.forward packet rt entry)
        | none => pure (.queue packet rt)

/-- Source: `sr_router.c`, `handle_ip_packet` -/
def ipPacketVerdict (sr : SrInstance) (packet : List UInt8) : Reading IpVerdict := do
  if packet.length < 34 then pure .drop
  else do
    read 24 2
    read 14 20
    if ipSum packet ≠ cksum (ipHdr (put packet 24 (u16Bytes 0))) then pure .drop
    else do
      let packet := put packet 24 (u16Bytes 0)
      read 30 4
      match getDstInterface sr packet with
      | some ipInterface => localVerdict packet ipInterface
      | none => transitVerdict sr packet

/-- The data of the answer is copied before the interface is used.
Source: `sr_router.c`, `send_icmp_response` -/
def sendIcmpResponse (sr : SrInstance) (env : Env) (packet : List UInt8) (interface : IfaceName)
    (type code : UInt8) (ipInterface : Option SrIf) : Reading (List Effect) := do
  if packet.length < 34 then pure []
  else do
    if type = 0 then read 34 (packet.length - 34) else read 14 28
    let _icmpSum ← readStray env.strayHdr
    let outInterface ← deref (srGetInterface sr interface)
    let ip := (ipInterface.getD outInterface).ip
    read 14 20
    read 26 4
    read 6 6
    pure [.send (.icmpResponse type code)
      (icmpResponseFrame outInterface ip packet env.after type code) interface]

/-- `sr_send_packet` and the `memcpy` of `sr_arpcache_queuereq` read the whole frame;
`handle_arpreq` reads queued copies only.
Source: `sr_router.c`, `handle_ip_packet` -/
def handleIpPacket (sr : SrInstance) (env : Env) (packet : List UInt8) (interface : IfaceName) :
    Reading (SrInstance × List Effect) := do
  match ← ipPacketVerdict sr packet with
  | .drop => pure (sr, [])
  | .respond packet type code ipInterface => do
      let out ← sendIcmpResponse sr env packet interface type code ipInterface
      pure (sr, out)
  | .forward packet rt entry => do
      let iface ← deref (srGetInterface sr rt.interface)
      read 0 packet.length
      pure (sr, [.send .forward (rewriteEther packet iface.addr entry.mac) rt.interface])
  | .queue packet rt => do
      read 0 packet.length
      let queued := srArpcacheQueuereq sr.cache rt.gw packet rt.interface
      let (sr', out) ← ⟨[], handleArpreq { sr with cache := queued.1 } env queued.2⟩
      pure (sr', .enqueue rt.gw (sr.cache.newPacket packet rt.interface) :: out)

/-- The reads are of the queued copy.
Source: `sr_arpcache.c`, `sr_send_icmp_t3(sr, pkt->buf, pkt->len, pkt->iface, 3, 1)` -/
def srSendIcmpT3 (sr : SrInstance) (env : Env) (req : SrArpreq) (pkt : SrPacket) :
    Reading Effect := do
  read 6 6
  let iface ← deref (srGetInterface sr pkt.iface)
  read 26 4
  read 14 28
  pure (.send (.hostUnreachable req pkt) (icmpT3Frame iface pkt.buf (env.pktAfter pkt.id) 3 1)
    pkt.iface)

/-! ### The values are those of the handlers -/

section value

variable {sr : SrInstance} {env : Env} {packet : List UInt8} {interface : IfaceName}

/-- Reading through a pointer is not a read of the frame. -/
@[simp] theorem val_deref {α : Type} (o : Option α) : (deref o).val = SimpleRouter.deref o := rfl

/-- Nor is the read through the pointer that is never assigned. -/
@[simp] theorem val_readStray {α : Type} (o : Option α) :
    (readStray o).val = SimpleRouter.readStray o := rfl

/-- A read does not change what follows. -/
@[simp] theorem val_read_bind {α : Type} (off len : ℕ) (f : Unit → Reading α) :
    (read off len >>= f).val = (f ()).val := rfl

/-- The reads do not change what is decided: for a packet for the router. -/
theorem val_localVerdict (packet : List UInt8) (ipInterface : SrIf) :
    (localVerdict packet ipInterface).val = SimpleRouter.localVerdict packet ipInterface := by
  unfold localVerdict SimpleRouter.localVerdict
  rw [val_read_bind]
  by_cases hicmp : ipP packet = 1
  · rw [if_pos hicmp, if_pos hicmp, val_read_bind]
    split_ifs
    · rfl
    · simp only [val_read_bind]
      split_ifs <;> rfl
  · rw [if_neg hicmp, if_neg hicmp]
    split_ifs <;> rfl

/-- The same for a packet for another host. -/
theorem val_transitVerdict (sr : SrInstance) (packet : List UInt8) :
    (transitVerdict sr packet).val = .ok (SimpleRouter.transitVerdict sr packet) := by
  unfold transitVerdict SimpleRouter.transitVerdict
  rw [val_read_bind]
  split_ifs
  · rfl
  · simp only [val_read_bind]
    cases srLongestPrefixMatch sr (ipDst (rewriteTransit packet)) with
    | none => rfl
    | some rt => cases hentry : srArpcacheLookup sr.cache rt.gw <;> simp only [hentry] <;> rfl

/-- The same for both, with the checks in front. -/
theorem val_ipPacketVerdict (sr : SrInstance) (packet : List UInt8) :
    (ipPacketVerdict sr packet).val = SimpleRouter.ipPacketVerdict sr packet := by
  unfold ipPacketVerdict SimpleRouter.ipPacketVerdict
  split_ifs
  · rfl
  · rfl
  · simp only [val_read_bind]
    cases getDstInterface sr (put packet 24 (u16Bytes 0)) with
    | some ipInterface => exact val_localVerdict _ ipInterface
    | none => exact val_transitVerdict sr _

/-- The same for an answer. -/
theorem val_sendIcmpResponse {type code : UInt8} {ipInterface : Option SrIf} :
    (sendIcmpResponse sr env packet interface type code ipInterface).val =
      SimpleRouter.sendIcmpResponse sr env packet interface type code ipInterface := by
  unfold sendIcmpResponse SimpleRouter.sendIcmpResponse
  split_ifs
  · rfl
  all_goals
    rw [val_read_bind, val_bind, val_readStray]
    cases SimpleRouter.readStray env.strayHdr with
    | error f => rfl
    | ok icmpSum =>
        change ((deref (srGetInterface sr interface)) >>= _ : Reading _).val = _
        rw [val_bind, val_deref]
        rfl

/-- The same for an IP packet as a whole. -/
theorem val_handleIpPacket :
    (handleIpPacket sr env packet interface).val =
      SimpleRouter.handleIpPacket sr env packet interface := by
  unfold handleIpPacket SimpleRouter.handleIpPacket
  rw [val_bind, val_ipPacketVerdict]
  congr 1
  funext verdict
  cases verdict with
  | drop => rfl
  | respond packet type code ipInterface =>
      dsimp only
      rw [val_bind, val_sendIcmpResponse]
      rfl
  | forward packet rt entry =>
      dsimp only
      rw [val_bind, val_deref]
      rfl
  | queue packet rt =>
      dsimp only
      rw [val_read_bind, val_bind]
      rfl

/-- The same for the error that a queued packet is given up with. -/
theorem val_srSendIcmpT3 {req : SrArpreq} {pkt : SrPacket} :
    (srSendIcmpT3 sr env req pkt).val = SimpleRouter.srSendIcmpT3 sr env req pkt := by
  unfold srSendIcmpT3 SimpleRouter.srSendIcmpT3
  rw [val_read_bind, val_bind, val_deref]
  rfl

end value

/-! ### Where the reads lie -/

section within

variable {sr : SrInstance} {env : Env} {packet : List UInt8} {interface : IfaceName}

/-- What is read through a pointer is not in the frame. -/
@[simp] theorem forAll_deref {α : Type} {P : Window → Prop} (o : Option α) :
    ForAll P (deref o) := by
  rintro _ ⟨⟩

/-- Nor is what the pointer that is never assigned meets. -/
@[simp] theorem forAll_readStray {α : Type} {P : Window → Prop} (o : Option α) :
    ForAll P (readStray o) := by
  rintro _ ⟨⟩

/-- A read, and what follows it. -/
theorem forAll_read_bind {α : Type} {P : Window → Prop} {off len : ℕ} {f : Unit → Reading α} :
    ForAll P (read off len >>= f) ↔ P ⟨off, len⟩ ∧ ForAll P (f ()) := forAll_tell_bind

/-- A read that lies inside makes no difference. -/
theorem inside_read_bind {α : Type} {n off len : ℕ} {f : Unit → Reading α} (h : off + len ≤ n) :
    ForAll (Window.Within n) (read off len >>= f) ↔ ForAll (Window.Within n) (f ()) :=
  forAll_read_bind.trans (and_iff_right h)

/-- To us, only the ICMP header can be missing. -/
theorem localVerdict_inside {ipInterface : SrIf} (h : 34 ≤ packet.length) :
    ForAll (Window.Within packet.length) (localVerdict packet ipInterface) ↔
      (ipP packet = 1 → 38 ≤ packet.length) := by
  unfold localVerdict
  rw [inside_read_bind (by omega)]
  by_cases hicmp : ipP packet = 1
  · rw [if_pos hicmp, forAll_read_bind, imp_iff_right hicmp]
    constructor
    · exact And.left
    · intro hlen
      refine ⟨hlen, ?_⟩
      rw [if_neg (by omega)]
      dsimp only
      rw [length_put, inside_read_bind (by omega)]
      split_ifs
      · exact forAll_pure _
      · exact (inside_read_bind (by omega)).mpr (forAll_pure _)
      · exact (inside_read_bind (by omega)).mpr (forAll_pure _)
  · rw [if_neg hicmp]
    refine iff_of_true ?_ fun h => absurd h hicmp
    split_ifs <;> exact forAll_pure _

/-- The decision about a packet for another host reads its two headers only. -/
theorem transitVerdict_inside (h : 34 ≤ packet.length) :
    ForAll (Window.Within packet.length) (transitVerdict sr packet) := by
  unfold transitVerdict
  rw [inside_read_bind (by omega)]
  split_ifs
  · exact forAll_pure _
  · rw [inside_read_bind (by omega)]
    dsimp only
    rw [inside_read_bind (by omega)]
    split
    · exact forAll_pure _
    · split <;> exact forAll_pure _

/-- The decision about a packet reads inside it, unless it is a short ICMP packet for the router. -/
theorem ipPacketVerdict_inside :
    ForAll (Window.Within packet.length) (ipPacketVerdict sr packet) ↔
      (34 ≤ packet.length → HeaderOk packet → getDstInterface sr packet ≠ none →
        ipP packet = 1 → 38 ≤ packet.length) := by
  unfold ipPacketVerdict
  by_cases hlen : packet.length < 34
  · rw [if_pos hlen]
    exact iff_of_true (forAll_pure _) fun h => absurd h (by omega)
  rw [if_neg hlen, inside_read_bind (by omega), inside_read_bind (by omega),
    imp_iff_right (show 34 ≤ packet.length by omega)]
  by_cases hok : HeaderOk packet
  · have hcheck : ¬ ipSum packet ≠ cksum (ipHdr (put packet 24 (u16Bytes 0))) := not_not.mpr hok
    rw [if_neg hcheck, imp_iff_right hok]
    dsimp only
    rw [inside_read_bind (by omega), getDstInterface_clearSum]
    have hclear : (put packet 24 (u16Bytes 0)).length = packet.length := length_put _ _ _
    cases getDstInterface sr packet with
    | none =>
        refine iff_of_true ?_ fun h => absurd rfl h
        rw [← hclear]
        exact transitVerdict_inside (by omega)
    | some ipInterface =>
        rw [imp_iff_right (Option.some_ne_none ipInterface), ← hclear, ← ipP_clearSum packet]
        exact localVerdict_inside (by omega)
  · have hcheck : ipSum packet ≠ cksum (ipHdr (put packet 24 (u16Bytes 0))) := hok
    rw [if_pos hcheck]
    exact iff_of_true (forAll_pure _) fun h => absurd h hok

/-- An answer quotes the frame up to byte 42, unless it is an echo reply. -/
theorem sendIcmpResponse_inside {type code : UInt8} {ipInterface : Option SrIf}
    (h : 34 ≤ packet.length) :
    ForAll (Window.Within packet.length)
        (sendIcmpResponse sr env packet interface type code ipInterface) ↔
      (type = 0 ∨ 42 ≤ packet.length) := by
  have hrest : ForAll (Window.Within packet.length) (readStray env.strayHdr >>= fun _ => do
        let outInterface ← deref (srGetInterface sr interface)
        read 14 20
        read 26 4
        read 6 6
        pure [Effect.send (.icmpResponse type code) (icmpResponseFrame outInterface
          (ipInterface.getD outInterface).ip packet env.after type code) interface]) := by
    refine forAll_bind.mpr ⟨forAll_readStray _, fun _ _ => ?_⟩
    refine forAll_bind.mpr ⟨forAll_deref _, fun outInterface _ => ?_⟩
    rw [inside_read_bind h, inside_read_bind (by omega), inside_read_bind (by omega)]
    exact forAll_pure _
  unfold sendIcmpResponse
  rw [if_neg (by omega)]
  by_cases htype : type = 0
  · rw [if_pos htype, inside_read_bind (by omega)]
    exact iff_of_true hrest (.inl htype)
  · rw [if_neg htype, forAll_read_bind]
    constructor
    · rintro ⟨hquote, -⟩
      exact .inr hquote
    · rintro (h | hquote)
      · exact absurd h htype
      · exact ⟨hquote, hrest⟩

/-- Host unreachable quotes the queued packet up to byte 42, if its interface resolves. -/
theorem srSendIcmpT3_inside {req : SrArpreq} {pkt : SrPacket} (h : 34 ≤ pkt.buf.length) :
    ForAll (Window.Within pkt.buf.length) (srSendIcmpT3 sr env req pkt) ↔
      (srGetInterface sr pkt.iface ≠ none → 42 ≤ pkt.buf.length) := by
  unfold srSendIcmpT3
  rw [inside_read_bind (by omega), forAll_bind, and_iff_right (forAll_deref _), val_deref]
  constructor
  · intro hall hif
    obtain ⟨iface, hiface⟩ := Option.ne_none_iff_exists'.mp hif
    have hreads := hall iface (deref_ok_iff.mpr hiface)
    rw [inside_read_bind (by omega)] at hreads
    exact (forAll_read_bind.mp hreads).1
  · intro hlen iface hiface
    have hif : srGetInterface sr pkt.iface ≠ none := by
      rw [deref_ok_iff.mp hiface]
      exact Option.some_ne_none iface
    rw [inside_read_bind (by omega), inside_read_bind (hlen hif)]
    exact forAll_pure _

/-- Forwarding and queueing read the frame and no more. -/
theorem handleIpPacket_inside :
    ForAll (Window.Within packet.length) (handleIpPacket sr env packet interface) ↔
      ForAll (Window.Within packet.length) (ipPacketVerdict sr packet) ∧
        ∀ p type code ipInterface,
          SimpleRouter.ipPacketVerdict sr packet = .ok (.respond p type code ipInterface) →
            type = 0 ∨ 42 ≤ packet.length := by
  unfold handleIpPacket
  rw [forAll_bind, val_ipPacketVerdict]
  refine and_congr_right fun _ => ?_
  constructor
  · intro hall p type code ipInterface hverdict
    obtain ⟨hlen, h34⟩ := length_of_respond hverdict
    have hsend := hall _ hverdict
    dsimp only at hsend
    rw [forAll_bind, ← hlen, sendIcmpResponse_inside (by omega), hlen] at hsend
    exact hsend.1
  · intro hrespond verdict hverdict
    cases verdict with
    | drop => exact forAll_pure _
    | respond p type code ipInterface =>
        obtain ⟨hlen, h34⟩ := length_of_respond hverdict
        dsimp only
        rw [forAll_bind, ← hlen, sendIcmpResponse_inside (by omega), hlen]
        exact ⟨hrespond p type code ipInterface hverdict, fun _ _ => forAll_pure _⟩
    | forward p rt entry =>
        obtain ⟨-, -, -, -, rfl⟩ := verdict_forward_iff.mp hverdict
        dsimp only
        refine forAll_bind.mpr ⟨forAll_deref _, fun iface _ => ?_⟩
        rw [inside_read_bind (by rw [length_transitCopy, Nat.zero_add])]
        exact forAll_pure _
    | queue p rt =>
        obtain ⟨-, -, -, -, rfl⟩ := verdict_queue_iff.mp hverdict
        dsimp only
        rw [inside_read_bind (by rw [length_transitCopy, Nat.zero_add])]
        refine forAll_bind.mpr ⟨?_, fun _ _ => forAll_pure _⟩
        rintro _ ⟨⟩

/-- A frame for one of the router's addresses. -/
theorem handleIpPacket_inside_local {ipInterface : SrIf} (h : 34 ≤ packet.length)
    (hok : HeaderOk packet) (hdst : getDstInterface sr packet = some ipInterface) :
    ForAll (Window.Within packet.length) (handleIpPacket sr env packet interface) ↔
      (ipP packet = 1 → 38 ≤ packet.length) ∧
        (ipP packet = 6 ∨ ipP packet = 17 → 42 ≤ packet.length) := by
  rw [handleIpPacket_inside, ipPacketVerdict_inside, imp_iff_right h, imp_iff_right hok, hdst,
    imp_iff_right (Option.some_ne_none ipInterface), verdict_of_local h hok hdst]
  refine and_congr_right fun _ => ?_
  constructor
  · intro hrespond hp
    have hne : ipP packet ≠ 1 := by
      rcases hp with hp | hp <;> rw [hp] <;> decide
    have hverdict : SimpleRouter.localVerdict (put packet 24 (u16Bytes 0)) ipInterface =
        .ok (.respond (put packet 24 (u16Bytes 0)) 3 3 (some ipInterface)) := by
      unfold SimpleRouter.localVerdict
      rw [ipP_clearSum, if_neg hne, if_pos hp]
    exact (hrespond _ _ _ _ hverdict).resolve_left (by decide)
  · intro hp p type code found hverdict
    unfold SimpleRouter.localVerdict at hverdict
    rw [ipP_clearSum] at hverdict
    dsimp only at hverdict
    split_ifs at hverdict with hicmp hlen hsum htype hudp <;> cases hverdict
    · exact .inl rfl
    · exact .inr (hp hudp)

/-- A frame for elsewhere. -/
theorem handleIpPacket_inside_transit (ht : IsTransit sr packet) :
    ForAll (Window.Within packet.length) (handleIpPacket sr env packet interface) ↔
      (ipTtl packet - 1 = 0 ∨ srLongestPrefixMatch sr (ipDst packet) = none →
        42 ≤ packet.length) := by
  have hreads : ForAll (Window.Within packet.length) (ipPacketVerdict sr packet) :=
    ipPacketVerdict_inside.mpr fun _ _ hdst => absurd ht.2.2 hdst
  rw [handleIpPacket_inside, and_iff_right hreads, verdict_of_transit ht]
  rcases transitVerdict_cases sr packet with ⟨httl, hv⟩ | ⟨httl, hrt, hv⟩ |
    ⟨rt, entry, httl, hrt, -, hv⟩ | ⟨rt, httl, hrt, -, hv⟩ <;> rw [hv]
  · rw [imp_iff_right (.inl httl)]
    constructor
    · intro hrespond
      exact (hrespond _ _ _ _ rfl).resolve_left (by decide)
    · intro hlen _ _ _ _ _
      exact .inr hlen
  · rw [imp_iff_right (.inr hrt)]
    constructor
    · intro hrespond
      exact (hrespond _ _ _ _ rfl).resolve_left (by decide)
    · intro hlen _ _ _ _ _
      exact .inr hlen
  · refine iff_of_true (fun _ _ _ _ h => by cases h) ?_
    rintro (h | h)
    · exact absurd h httl
    · rw [hrt] at h
      cases h
  · refine iff_of_true (fun _ _ _ _ h => by cases h) ?_
    rintro (h | h)
    · exact absurd h httl
    · rw [hrt] at h
      cases h

end within

end Reading

/-! ### No read past the end -/

section readsInside

variable {sr : SrInstance} {env : Env} {packet : List UInt8} {interface : IfaceName}

/-- **No byte past the end of an IP frame is read**: not by `handle_ip_packet` and the
`send_icmp_response` it calls, and not by a later `sr_send_icmp_t3` on the copy it queues. -/
structure ReadsInside (sr : SrInstance) (env : Env) (packet : List UInt8) (interface : IfaceName) :
    Prop where
  /-- On arrival. -/
  arrival : ForAll (Window.Within packet.length)
    (Reading.handleIpPacket sr env packet interface)
  /-- When the queued copy is given up, whatever has happened to the cache since. -/
  expiry : ∀ p rt, ipPacketVerdict sr packet = .ok (.queue p rt) →
    ∀ later env' req, later.ifList = sr.ifList → ForAll (Window.Within packet.length)
      (Reading.srSendIcmpT3 later env' req (sr.cache.newPacket p rt.interface))

/-- The frames of less than 42 bytes that are handled without a read past their end: to us, whole
ICMP headers, and what is neither ICMP nor TCP nor UDP; for elsewhere, what is forwarded at once,
and what is queued for an interface that does not exist. -/
def StaysInside (sr : SrInstance) (packet : List UInt8) : Prop :=
  (getDstInterface sr packet ≠ none ∧
      ((ipP packet = 1 ∧ 38 ≤ packet.length) ∨
        (ipP packet ≠ 1 ∧ ¬ (ipP packet = 6 ∨ ipP packet = 17)))) ∨
    (getDstInterface sr packet = none ∧ ipTtl packet - 1 ≠ 0 ∧
      ∃ rt, srLongestPrefixMatch sr (ipDst packet) = some rt ∧
        (srArpcacheLookup sr.cache rt.gw ≠ none ∨ srGetInterface sr rt.interface = none))

/-- What `StaysInside` says of a packet for the router. -/
theorem staysInside_some {ipInterface : SrIf} (h : getDstInterface sr packet = some ipInterface) :
    StaysInside sr packet ↔ (ipP packet = 1 ∧ 38 ≤ packet.length) ∨
      (ipP packet ≠ 1 ∧ ¬ (ipP packet = 6 ∨ ipP packet = 17)) := by
  unfold StaysInside
  rw [h, and_iff_right (Option.some_ne_none ipInterface)]
  refine or_iff_left ?_
  rintro ⟨⟨⟩, -⟩

/-- What `StaysInside` says of a packet for another host. -/
theorem staysInside_none (h : getDstInterface sr packet = none) :
    StaysInside sr packet ↔ ipTtl packet - 1 ≠ 0 ∧
      ∃ rt, srLongestPrefixMatch sr (ipDst packet) = some rt ∧
        (srArpcacheLookup sr.cache rt.gw ≠ none ∨ srGetInterface sr rt.interface = none) := by
  unfold StaysInside
  rw [h, and_iff_right rfl]
  refine or_iff_right ?_
  rintro ⟨hne, -⟩
  exact hne rfl

/-- The later call for a queued copy. -/
theorem expiry_inside_iff (env : Env) {rt : SrRt} (h : 34 ≤ packet.length) :
    (∀ later env' req, later.ifList = sr.ifList → ForAll (Window.Within packet.length)
        (Reading.srSendIcmpT3 later env' req
          (sr.cache.newPacket (transitCopy packet) rt.interface))) ↔
      (srGetInterface sr rt.interface ≠ none → 42 ≤ packet.length) := by
  have hcall : ∀ later env' req, ForAll (Window.Within packet.length) (Reading.srSendIcmpT3
      later env' req (sr.cache.newPacket (transitCopy packet) rt.interface)) ↔
      (srGetInterface later rt.interface ≠ none → 42 ≤ packet.length) := by
    intro later env' req
    have hlen : (sr.cache.newPacket (transitCopy packet) rt.interface).buf.length = packet.length :=
      length_transitCopy packet
    rw [← hlen]
    exact Reading.srSendIcmpT3_inside (by omega)
  constructor
  · intro hall
    exact (hcall sr env ⟨0, 0, 0, 0, []⟩).mp (hall sr env _ rfl)
  · intro hlen later env' req hif
    refine (hcall later env' req).mpr fun hiface => hlen ?_
    unfold srGetInterface at hiface ⊢
    rwa [← hif]

/-- A frame that is dropped by the sanity checks. -/
theorem readsInside_of_drop (h : packet.length < 34 ∨ ¬ HeaderOk packet) :
    ReadsInside sr env packet interface := by
  have hdrop : ipPacketVerdict sr packet = .ok .drop := by
    unfold ipPacketVerdict
    by_cases hlen : packet.length < 34
    · exact if_pos hlen
    · rw [if_neg hlen]
      exact if_pos (h.resolve_left hlen)
  constructor
  · rw [Reading.handleIpPacket_inside, Reading.ipPacketVerdict_inside, hdrop]
    refine ⟨fun hlen hok => ?_, fun _ _ _ _ hv => by cases hv⟩
    exact absurd hok (h.resolve_left (by omega))
  · intro p rt hv
    rw [hdrop] at hv
    cases hv

/-- When a packet for the router is read inside. -/
theorem readsInside_local {ipInterface : SrIf} (h : 34 ≤ packet.length) (hok : HeaderOk packet)
    (hdst : getDstInterface sr packet = some ipInterface) :
    ReadsInside sr env packet interface ↔
      (ipP packet = 1 → 38 ≤ packet.length) ∧
        (ipP packet = 6 ∨ ipP packet = 17 → 42 ≤ packet.length) := by
  have harrival : ForAll (Window.Within packet.length)
      (Reading.handleIpPacket sr env packet interface) ↔ _ :=
    Reading.handleIpPacket_inside_local h hok hdst
  rw [← harrival]
  refine ⟨ReadsInside.arrival, fun harr => ⟨harr, ?_⟩⟩
  intro p rt hv
  have ht := transit_of_verdict hv (.inl ⟨p, rt, rfl⟩)
  rw [ht.2.2] at hdst
  cases hdst

/-- When a packet for another host is read inside. -/
theorem readsInside_transit (ht : IsTransit sr packet) :
    ReadsInside sr env packet interface ↔
      (ipTtl packet - 1 = 0 ∨ srLongestPrefixMatch sr (ipDst packet) = none →
          42 ≤ packet.length) ∧
        ∀ rt, ipTtl packet - 1 ≠ 0 → srLongestPrefixMatch sr (ipDst packet) = some rt →
          srArpcacheLookup sr.cache rt.gw = none → srGetInterface sr rt.interface ≠ none →
          42 ≤ packet.length := by
  have hiff : ForAll (Window.Within packet.length)
      (Reading.handleIpPacket sr env packet interface) ↔ _ :=
    Reading.handleIpPacket_inside_transit ht
  constructor
  · intro hread
    refine ⟨hiff.mp hread.arrival, fun rt httl hrt hlookup => ?_⟩
    apply (expiry_inside_iff env ht.1).mp
    exact hread.expiry _ rt (verdict_queue_iff.mpr ⟨ht, httl, hrt, hlookup, rfl⟩)
  · rintro ⟨harr, hexp⟩
    refine ⟨hiff.mpr harr, fun p rt hv => ?_⟩
    obtain ⟨-, httl, hrt, hlookup, rfl⟩ := verdict_queue_iff.mp hv
    exact (expiry_inside_iff env ht.1).mpr (hexp rt httl hrt hlookup)

/-- **When no byte past the end of an IP frame is read.** -/
theorem readsInside_iff :
    ReadsInside sr env packet interface ↔
      packet.length < 34 ∨ ¬ HeaderOk packet ∨ 42 ≤ packet.length ∨ StaysInside sr packet := by
  by_cases hdrop : packet.length < 34 ∨ ¬ HeaderOk packet
  · refine iff_of_true (readsInside_of_drop hdrop) ?_
    exact hdrop.imp_right .inl
  obtain ⟨hlen, hok⟩ := not_or.mp hdrop
  rw [or_iff_right hlen, or_iff_right hok]
  cases hdst : getDstInterface sr packet with
  | some ipInterface =>
      rw [readsInside_local (by omega) (not_not.mp hok) hdst, staysInside_some hdst]
      constructor
      · rintro ⟨hicmp, hport⟩
        by_cases h₁ : ipP packet = 1
        · exact .inr (.inl ⟨h₁, hicmp h₁⟩)
        by_cases h₂ : ipP packet = 6 ∨ ipP packet = 17
        · exact .inl (hport h₂)
        · exact .inr (.inr ⟨h₁, h₂⟩)
      · rintro (h | ⟨h₁, h⟩ | ⟨h₁, h₂⟩)
        · exact ⟨fun _ => by omega, fun _ => h⟩
        · refine ⟨fun _ => h, fun h₂ => ?_⟩
          rw [h₁] at h₂
          exact absurd h₂ (by decide)
        · exact ⟨fun h => absurd h h₁, fun h => absurd h h₂⟩
  | none =>
      rw [readsInside_transit ⟨by omega, not_not.mp hok, hdst⟩, staysInside_none hdst]
      constructor
      · rintro ⟨hanswer, hqueue⟩
        by_cases hlong : 42 ≤ packet.length
        · exact .inl hlong
        have httl : ipTtl packet - 1 ≠ 0 := fun h => hlong (hanswer (.inl h))
        obtain ⟨rt, hrt⟩ := Option.ne_none_iff_exists'.mp fun h => hlong (hanswer (.inr h))
        refine .inr ⟨httl, rt, hrt, ?_⟩
        by_contra hneither
        obtain ⟨hlookup, hif⟩ := not_or.mp hneither
        exact hlong (hqueue rt httl hrt (not_not.mp hlookup) hif)
      · rintro (h | ⟨httl, rt, hrt, hstays⟩)
        · exact ⟨fun _ => h, fun _ _ _ _ _ => h⟩
        · refine ⟨?_, ?_⟩
          · rintro (h | h)
            · exact absurd h httl
            · rw [hrt] at h
              cases h
          · intro rt' _ hrt' hlookup hif
            obtain rfl := Option.some.inj (hrt.symm.trans hrt')
            rcases hstays with h | h
            · exact absurd hlookup h
            · exact absurd h hif

end readsInside

/-- The two headers of a UDP packet to `10.0.1.1`, with nothing behind them. -/
def headersOnly : List UInt8 := (udpFrame 1 1 64).take 34

/-- The port unreachable that answers them quotes eight bytes past their end. -/
theorem headersOnly_read_past :
    (∃ sr' out, handleIpPacket twoPort (stillEnv 1) headersOnly (ethName 1) = .ok (sr', out)) ∧
    headersOnly.length = 34 ∧
    ⟨14, 28⟩ ∈ (Reading.handleIpPacket twoPort (stillEnv 1) headersOnly (ethName 1)).log ∧
    ¬ ReadsInside twoPort (stillEnv 1) headersOnly (ethName 1) := by
  have hlen : headersOnly.length = 34 := by decide +kernel
  have hmem : (⟨14, 28⟩ : Window) ∈
      (Reading.handleIpPacket twoPort (stillEnv 1) headersOnly (ethName 1)).log := by
    decide +kernel
  refine ⟨⟨_, _, rfl⟩, hlen, hmem, fun hread => ?_⟩
  have hwithin : 14 + 28 ≤ headersOnly.length := hread.arrival _ hmem
  rw [hlen] at hwithin
  omega

end SimpleRouter
