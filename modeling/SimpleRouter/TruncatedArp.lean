import SimpleRouter.FrameReads

/-!
# Truncated ARP frames

An ARP frame has 42 bytes. `sr_arp_req_not_for_us` lets shorter ones through without looking at
them, and `handle_arp_packet` has no length check: it reads the opcode, then by the opcode the
target or the sender, wherever they would be.

`harmless_iff` — **when a truncated ARP frame does nothing**: the opcode must be in it, and if it is
a reply then its sender address as well; and there must be nothing to learn from it. A truncated
request is never harmless.
-/

namespace SimpleRouter

open Buffer Logged Machine

namespace Reading

/-! ### The handlers -/

/-- Source: `sr_router.c`, `handle_arp_packet`, the body of the flush loop -/
def flushPacket (iface : Option SrIf) (sha : EtherAddr) (req : SrArpreq) (pkt : SrPacket) :
    Reading Effect := do
  read 22 6
  let iface ← deref iface
  pure (.send (.flush req pkt) (rewriteEther pkt.buf iface.addr sha) pkt.iface)

/-- Source: `sr_router.c`, `handle_arp_packet`, the flush loop -/
def flushLoop (iface : Option SrIf) (sha : EtherAddr) (req : SrArpreq) :
    List SrPacket → Reading (List Effect)
  | [] => pure []
  | pkt :: pkts => do
      let e ← flushPacket iface sha req pkt
      let es ← flushLoop iface sha req pkts
      pure (e :: es)

/-- The address is copied into a free slot, if there is one.
Source: `sr_arpcache.c`, `sr_arpcache_insert(cache, packet_arp_hdr->ar_sha, …)` -/
def copyMac (cache : SrArpcache) : Reading Unit :=
  if cache.entries.any fun e => !e.valid then read 22 6 else pure ()

/-- Source: `sr_router.c`, `handle_arp_packet` -/
def handleArpPacket (sr : SrInstance) (env : Env) (packet : List UInt8) (interface : IfaceName) :
    Reading (SrInstance × List Effect) := do
  read 20 2
  if arOp packet env.after = 1 then do
    read 38 4
    let iface ← deref (srGetInterface sr interface)
    if arTip packet env.after = iface.ip then do
      read 6 6
      read 14 28
      if packet.length < 42 then stop .outOfBounds
      else pure (sr, [.send .arpReply (arpReplyFrame iface packet) interface])
    else pure (sr, [])
  else if arOp packet env.after = 2 then do
    read 28 4
    copyMac sr.cache
    let sha := arSha packet env.after
    let inserted := srArpcacheInsert sr.cache sha (arSip packet env.after) env.now
    match inserted.2 with
    | none => pure ({ sr with cache := inserted.1 }, [])
    | some req => do
        let out ← flushLoop (srGetInterface sr interface) sha req req.packets
        pure ({ sr with cache := srArpreqDestroy inserted.1 req.id }, out)
  else pure (sr, [])

/-- Source: `sr_router.c`, `sr_handlepacket` -/
def srHandlepacket (sr : SrInstance) (env : Env) (packet : List UInt8) (interface : IfaceName) :
    Reading (SrInstance × List Effect) := do
  read 12 2
  if ethertype packet env.after = 0x0800 then handleIpPacket sr env packet interface
  else if ethertype packet env.after = 0x0806 then handleArpPacket sr env packet interface
  else pure (sr, [])

/-- Source: `sr_vns_comm.c`, `sr_arp_req_not_for_us` -/
def srArpReqNotForUs (sr : SrInstance) (packet : List UInt8) (interface : IfaceName) :
    Logged Window Stop Bool := do
  if packet.length < 42 then pure false
  else
    match srGetInterface sr interface with
    | none => stop .assertion
    | some iface => do
        tell ⟨12, 2⟩
        if u16 (slice packet 12 2) ≠ htons 0x0806 then pure false
        else do
          tell ⟨20, 2⟩
          if u16 (slice packet 20 2) ≠ htons 1 then pure false
          else do
            tell ⟨38, 4⟩
            pure (u32 (slice packet 38 4) ≠ iface.ip)

/-- The filter, then the handler.
Source: `sr_vns_comm.c`, `sr_read_from_server_expect`, `case VNSPACKET` -/
def receive (sr : SrInstance) (env : Env) (packet : List UInt8) (interface : IfaceName) :
    Logged Window Stop (SrInstance × List Effect) := do
  let drop ← srArpReqNotForUs sr packet interface
  if drop then pure (sr, []) else (srHandlepacket sr env packet interface).mapError .fault

/-! ### The values are those of the handlers -/

section value

variable {sr : SrInstance} {env : Env} {packet : List UInt8} {interface : IfaceName}

/-- The reads and writes do not change what is sent: for a flush. -/
theorem val_flushLoop {iface : Option SrIf} {sha : EtherAddr} {req : SrArpreq}
    (pkts : List SrPacket) :
    (flushLoop iface sha req pkts).val = pkts.mapM (SimpleRouter.flushPacket iface sha req) := by
  induction pkts with
  | nil => rfl
  | cons pkt pkts ih =>
      have hfirst : (flushPacket iface sha req pkt).val =
          SimpleRouter.flushPacket iface sha req pkt := by
        unfold flushPacket SimpleRouter.flushPacket
        rw [val_read_bind, val_bind, val_deref]
        rfl
      rw [flushLoop, val_bind, hfirst, List.mapM_cons]
      congr 1
      funext e
      rw [val_bind, ih]
      rfl

/-- The same for an ARP packet. -/
theorem val_handleArpPacket :
    (handleArpPacket sr env packet interface).val =
      SimpleRouter.handleArpPacket sr env packet interface := by
  unfold handleArpPacket SimpleRouter.handleArpPacket
  rw [val_read_bind]
  by_cases hrequest : arOp packet env.after = 1
  · rw [if_pos hrequest, if_pos hrequest, val_read_bind, val_bind, val_deref]
    congr 1
    funext iface
    split_ifs <;> rfl
  rw [if_neg hrequest, if_neg hrequest]
  by_cases hreply : arOp packet env.after = 2
  · have hcopy : (copyMac sr.cache).val = .ok () := by
      unfold copyMac
      split_ifs <;> rfl
    rw [if_pos hreply, if_pos hreply, val_read_bind, val_bind_of_val hcopy]
    cases hfind : (srArpcacheInsert sr.cache (arSha packet env.after) (arSip packet env.after)
        env.now).2 with
    | none => simp only [hfind, val_pure]
    | some req =>
        simp only [hfind]
        rw [val_bind, val_flushLoop]
        rfl
  · rw [if_neg hreply, if_neg hreply]
    rfl

/-- The same for a frame. -/
theorem val_srHandlepacket :
    (srHandlepacket sr env packet interface).val =
      SimpleRouter.srHandlepacket sr env packet interface := by
  unfold srHandlepacket SimpleRouter.srHandlepacket
  rw [val_read_bind]
  split_ifs
  · exact val_handleIpPacket
  · exact val_handleArpPacket
  · rfl

/-- The filter looks at the frame in the message as it does here. -/
theorem val_srArpReqNotForUs {venv : VnsEnv} {buf mem : List UInt8} {len : ℕ} :
    (SimpleRouter.srArpReqNotForUs venv sr buf len mem).val =
      (srArpReqNotForUs sr (load buf venv.heap 24 len) (IfaceName.ofChars mem)).val := by
  unfold SimpleRouter.srArpReqNotForUs srArpReqNotForUs
  rw [tells_bind, length_load]
  by_cases hlen : len < 42
  · rw [if_pos hlen, if_pos hlen]
    rfl
  rw [if_neg hlen, if_neg hlen]
  cases srGetInterface sr (IfaceName.ofChars mem) with
  | none => rfl
  | some iface =>
      dsimp only
      rw [slice_load (by omega), slice_load (by omega), slice_load (by omega)]
      simp only [tell_bind]
      split_ifs <;> rfl

/-- The case `VNSPACKET` of the client is `receive` on the frame in the message. -/
theorem val_handleVnspacket {venv : VnsEnv} {s : Session} {buf : List UInt8} :
    (handleVnspacket venv s buf).val =
      ((receive s.sr { venv.router with after := fun i => venv.heap (24 + i) }
        (load buf venv.heap 24 (UInt32.ofNat buf.length - 38 + 14).toNat)
        (IfaceName.ofChars (load buf venv.heap 8 32))).val.map fun r => ((1 : ℤ), r.1)) := by
  unfold handleVnspacket receive
  rw [tell_bind]
  dsimp only
  cases hdrop : (srArpReqNotForUs s.sr
      (load buf venv.heap 24 (UInt32.ofNat buf.length - 38 + 14).toNat)
      (IfaceName.ofChars (load buf venv.heap 8 32))).val with
  | error e =>
      rw [val_bind, val_bind, val_srArpReqNotForUs, hdrop]
      rfl
  | ok drop =>
      rw [val_bind_of_val (val_srArpReqNotForUs.trans hdrop), val_bind_of_val hdrop]
      cases drop with
      | true => rfl
      | false =>
          rw [if_neg Bool.false_ne_true, if_neg Bool.false_ne_true, val_mapError,
            val_srHandlepacket]
          simp only [tell_bind, tells_bind]
          cases SimpleRouter.srHandlepacket s.sr _ _ _ <;> rfl

end value

/-! ### Where the reads lie -/

section within

variable {sr : SrInstance} {env : Env} {packet : List UInt8} {interface : IfaceName}

/-- A flush reads inside of the ARP header. -/
theorem flushLoop_inside {iface : Option SrIf} {sha : EtherAddr} {req : SrArpreq} {n : ℕ}
    (h : 28 ≤ n) (pkts : List SrPacket) :
    ForAll (Window.Within n) (flushLoop iface sha req pkts) := by
  induction pkts with
  | nil => exact forAll_pure _
  | cons pkt pkts ih =>
      refine forAll_bind.mpr ⟨?_, fun _ _ => forAll_bind.mpr ⟨ih, fun _ _ => forAll_pure _⟩⟩
      refine (inside_read_bind h).mpr (forAll_bind.mpr ⟨forAll_deref _, fun _ _ => ?_⟩)
      exact forAll_pure _

/-- The filter lets a short frame through. -/
theorem receive_of_short (h : packet.length < 42) :
    receive sr env packet interface = (srHandlepacket sr env packet interface).mapError .fault := by
  unfold receive srArpReqNotForUs
  rw [if_pos h, bind_pure_val]
  exact if_neg Bool.false_ne_true

/-- How far the handler looks into a short frame depends on the opcode, wherever that is. -/
theorem handleArpPacket_inside (h : packet.length < 42) :
    ForAll (Window.Within packet.length) (handleArpPacket sr env packet interface) ↔
      22 ≤ packet.length ∧ arOp packet env.after ≠ 1 ∧
        (arOp packet env.after = 2 → 32 ≤ packet.length) := by
  unfold handleArpPacket
  rw [forAll_read_bind]
  refine and_congr_right fun _ => ?_
  by_cases hrequest : arOp packet env.after = 1
  · rw [if_pos hrequest, forAll_read_bind]
    refine iff_of_false (fun hread => ?_) fun hne => hne.1 hrequest
    have htip : 38 + 4 ≤ packet.length := hread.1
    omega
  rw [if_neg hrequest, and_iff_right hrequest]
  by_cases hreply : arOp packet env.after = 2
  · rw [if_pos hreply, imp_iff_right hreply, forAll_read_bind]
    refine and_iff_left_of_imp fun hsip => ?_
    have hend : 28 + 4 ≤ packet.length := hsip
    have hsha : 22 + 6 ≤ packet.length := by omega
    refine forAll_bind.mpr ⟨?_, fun _ _ => ?_⟩
    · unfold copyMac
      split_ifs
      · exact (forAll_tell _).mpr hsha
      · exact forAll_pure _
    · dsimp only
      split
      · exact forAll_pure _
      · exact forAll_bind.mpr ⟨flushLoop_inside hsha _, fun _ _ => forAll_pure _⟩
  · rw [if_neg hreply]
    exact iff_of_true (forAll_pure _) fun h => absurd h hreply

end within

end Reading

/-! ### When nothing happens -/

section harmless

variable {sr : SrInstance} {env : Env} {packet : List UInt8} {interface : IfaceName}

/-- **The frame does nothing**: no byte past its end is read, nothing is sent, and the table and the
request queue stay what they are. -/
structure Harmless (sr : SrInstance) (env : Env) (packet : List UInt8) (interface : IfaceName) :
    Prop where
  /-- The reads. -/
  inside : ForAll (Window.Within packet.length) (Reading.receive sr env packet interface)
  /-- The effects, and the cache. -/
  quiet : ∃ sr', (Reading.receive sr env packet interface).val = .ok (sr', []) ∧
    sr'.cache.entries = sr.cache.entries ∧ sr'.cache.requests = sr.cache.requests

/-- An ARP reply changes nothing iff the table is full and no request waits for it. -/
theorem reply_quiet_iff (hop : arOp packet env.after = 2) :
    (∃ sr', handleArpPacket sr env packet interface = .ok (sr', []) ∧
        sr'.cache.entries = sr.cache.entries ∧ sr'.cache.requests = sr.cache.requests) ↔
      (∀ e ∈ sr.cache.entries, e.valid) ∧
        Keyed.find SrArpreq.ip (arSip packet env.after) sr.cache.requests = none := by
  have hentries : (learnCache sr env packet).entries = sr.cache.entries ↔
      ∀ e ∈ sr.cache.entries, e.valid := by
    show fillSlot sr.cache.entries _ = _ ↔ _
    rw [fillSlot_eq_fillFirst]
    exact Slots.fillFirst_eq_self_iff rfl
  constructor
  · rintro ⟨sr', h, he, hr⟩
    rcases handleArpPacket_reply hop h with ⟨hfind, -, rfl⟩ | ⟨req, hfind, -, rfl⟩
    · exact ⟨hentries.mp he, hfind⟩
    · -- the request that waited is gone
      have hlt := Keyed.length_erase_lt hfind
      have hle : (Keyed.erase SrArpreq.id req.id (learnCache sr env packet).requests).length ≤
          (learnCache sr env packet).requests.length := Keyed.erase_sublist.length_le
      have hlen := congrArg List.length hr
      rw [destroy_requests] at hlen
      rw [learnCache, insert_requests] at hle hlen
      omega
  · rintro ⟨hfull, hfind⟩
    refine ⟨{ sr with cache := learnCache sr env packet }, ?_, hentries.mpr hfull, ?_⟩
    · unfold handleArpPacket
      rw [if_neg (by rw [hop]; decide), if_pos hop]
      simp only [srArpcacheInsert, hfind, learnCache]
    · exact Keyed.erase_eq_self (Keyed.find_eq_none_iff.mp hfind)

/-- **When a truncated ARP frame does nothing.** -/
theorem harmless_iff (hlo : 14 ≤ packet.length) (hhi : packet.length < 42)
    (htype : ethertype packet env.after = 0x0806) :
    Harmless sr env packet interface ↔
      22 ≤ packet.length ∧
        ((arOp packet env.after ≠ 1 ∧ arOp packet env.after ≠ 2) ∨
          (arOp packet env.after = 2 ∧ 32 ≤ packet.length ∧
            (∀ e ∈ sr.cache.entries, e.valid) ∧
            Keyed.find SrArpreq.ip (arSip packet env.after) sr.cache.requests = none)) := by
  have hcall : (Reading.receive sr env packet interface).val =
      (handleArpPacket sr env packet interface).mapError Stop.fault := by
    rw [Reading.receive_of_short hhi, val_mapError, Reading.val_srHandlepacket, srHandlepacket,
      if_neg (by rw [htype]; decide), if_pos htype]
  have hreads : ForAll (Window.Within packet.length) (Reading.receive sr env packet interface) ↔
      22 ≤ packet.length ∧ arOp packet env.after ≠ 1 ∧
        (arOp packet env.after = 2 → 32 ≤ packet.length) := by
    rw [Reading.receive_of_short hhi, forAll_mapError, Reading.srHandlepacket,
      Reading.inside_read_bind hlo, if_neg (by rw [htype]; decide), if_pos htype,
      Reading.handleArpPacket_inside hhi]
  have hquiet : (∃ sr', (Reading.receive sr env packet interface).val = .ok (sr', []) ∧
        sr'.cache.entries = sr.cache.entries ∧ sr'.cache.requests = sr.cache.requests) ↔
      ∃ sr', handleArpPacket sr env packet interface = .ok (sr', []) ∧
        sr'.cache.entries = sr.cache.entries ∧ sr'.cache.requests = sr.cache.requests := by
    rw [hcall]
    simp only [mapError_ok_iff]
  constructor
  · rintro ⟨hinside, hq⟩
    obtain ⟨h22, hrequest, h32⟩ := hreads.mp hinside
    refine ⟨h22, ?_⟩
    by_cases hop : arOp packet env.after = 2
    · exact .inr ⟨hop, h32 hop, (reply_quiet_iff hop).mp (hquiet.mp hq)⟩
    · exact .inl ⟨hrequest, hop⟩
  · rintro ⟨h22, ⟨hrequest, hreply⟩ | ⟨hop, h32, hfull, hfind⟩⟩
    · refine ⟨hreads.mpr ⟨h22, hrequest, fun h => absurd h hreply⟩, hquiet.mpr ⟨sr, ?_, rfl, rfl⟩⟩
      unfold handleArpPacket
      rw [if_neg hrequest, if_neg hreply]
    · refine ⟨hreads.mpr ⟨h22, ?_, fun _ => h32⟩, hquiet.mpr ?_⟩
      · rw [hop]
        decide
      · exact (reply_quiet_iff hop).mpr ⟨hfull, hfind⟩

/-- An ARP frame that ends behind its opcode. -/
def arpStub (op : UInt8) : List UInt8 :=
  (mac 2).bytes ++ (mac 22).bytes ++ [8, 6] ++ [0, 1, 8, 0, 6, 4, 0, op]

/-- With an opcode nobody knows it is harmless. -/
theorem harmless_arpStub : Harmless twoPort (stillEnv 1) (arpStub 3) (ethName 2) :=
  (harmless_iff (by decide) (by decide) (by decide +kernel)).mpr (by decide +kernel)

/-- A reply cut off behind its sender is learned, and a request cut off behind its opcode is read
past its end. -/
theorem truncated_arp_harmful :
    ((replyFrame (mac 22) (netAddr 2 2)).take 32).length = 32 ∧
    ¬ Harmless twoPort (stillEnv 1) ((replyFrame (mac 22) (netAddr 2 2)).take 32) (ethName 2) ∧
    ¬ Harmless twoPort (stillEnv 1) (arpStub 1) (ethName 2) := by
  refine ⟨by decide +kernel, fun hsafe => ?_, fun hsafe => ?_⟩
  · obtain ⟨sr', hval, hentries, -⟩ := hsafe.quiet
    have hfree : sr'.cache.entries ≠ twoPort.cache.entries := by
      obtain ⟨rfl, -⟩ := Prod.mk.inj (Except.ok.inj hval.symm)
      decide +kernel
    exact hfree hentries
  · have hread : (⟨38, 4⟩ : Window) ∈
        (Reading.receive twoPort (stillEnv 1) (arpStub 1) (ethName 2)).log := by
      decide +kernel
    have hwithin : 38 + 4 ≤ (arpStub 1).length := hsafe.inside _ hread
    exact absurd hwithin (by decide)

end harmless

end SimpleRouter
