import SimpleRouter.Frames
import SimpleRouter.ArpCache

/-!
# Packet handling (`sr_router.c`, `sr_arpcache.c`)

The handlers as state transformers. A handler returns the new instance and the effects it had, in
order: the calls of `sr_send_packet`, each with the place it is made from, and the packets queued.
Where the C program has no further meaning the handler returns a `Fault`: a dereferenced null
pointer (an interface name that does not resolve), a write past the end of a buffer, a call of
`handle_arpreq` on a request that has been freed, or a read through a pointer that leads nowhere.

Three accesses that are undefined in C go on here with what memory holds, as the machine does:

* bytes read past the end of a frame are given by the environment (`Env.after`, `Env.pktAfter`);
* the sweep reads the `next` field of a request it has just freed, which `Effect.danglingRead`
  records;
* `send_icmp_response` prints a field through `response_icmp_hdr`, which it never assigns: both
  headers it fills in are locals of their own blocks that shadow it. The environment says what is
  met there (`Env.strayHdr`). Where it cannot be read the handler stops (`Fault.strayRead`), and
  the answer is not sent.

`ipPacketVerdict` is the part of `handle_ip_packet` that decides what happens to a packet;
`handleIpPacket` does it.
-/

namespace SimpleRouter

open Buffer

/-- Where the C program stops having a meaning. -/
inductive Fault where
  /-- A null pointer is dereferenced. -/
  | nullDeref
  /-- A write goes past the end of its object. -/
  | outOfBounds
  /-- `handle_arpreq` is called on a request that is not on the queue. -/
  | useAfterFree
  /-- A pointer that was never assigned is dereferenced, and leads to no readable memory. -/
  | strayRead
deriving DecidableEq

/-- The call sites of `sr_send_packet`. -/
inductive Caller where
  /-- `handle_ip_packet`, on an ARP cache hit. -/
  | forward
  /-- `send_icmp_response`. -/
  | icmpResponse (type code : UInt8)
  /-- `handle_arp_packet`, answering a request. -/
  | arpReply
  /-- `handle_arp_packet`, flushing the packet `pkt` of the request `req`. -/
  | flush (req : SrArpreq) (pkt : SrPacket)
  /-- `handle_arpreq`, sending the request at address `req` at time `now`. -/
  | arpRequest (req : ℕ) (now : ℤ)
  /-- `sr_send_icmp_t3`, called by `handle_arpreq` for the packet `pkt` of the request `req`. -/
  | hostUnreachable (req : SrArpreq) (pkt : SrPacket)
deriving DecidableEq

/-- What a handler does besides changing the instance. -/
inductive Effect where
  /-- `sr_send_packet(sr, buf, len, iface)`. -/
  | send (caller : Caller) (buf : List UInt8) (iface : IfaceName)
  /-- `sr_arpcache_queuereq` puts `pkt` on the list of the request for `ip`. -/
  | enqueue (ip : UInt32) (pkt : SrPacket)
  /-- `sr_arpcache_sweepreqs` reads `next` of a request that has been freed. -/
  | danglingRead (req : ℕ)
deriving DecidableEq

/-- What a handler learns from outside: clock readings, and the memory past its buffers. -/
structure Env where
  /-- `time(NULL)` in `sr_arpcache_insert` and at the head of `sr_arpcache_timeout`. -/
  now : ℤ
  /-- `time(NULL)` in the call of `handle_arpreq` on the request at an address. -/
  clock : ℕ → ℤ
  /-- The bytes past the end of the received frame. -/
  after : ℕ → UInt8
  /-- The bytes past the end of the buffer of a queued packet. -/
  pktAfter : ℕ → ℕ → UInt8
  /-- The field `icmp_sum` where the pointer `response_icmp_hdr` of `send_icmp_response` happens to
  lead, if memory can be read there. -/
  strayHdr : Option UInt16

/-- Dereference a pointer that may be null. -/
def deref {α : Type} : Option α → Except Fault α
  | some a => .ok a
  | none => .error .nullDeref

/-- A pointer that is not null is read. -/
theorem deref_ok_iff {α : Type} {o : Option α} {a : α} : deref o = .ok a ↔ o = some a := by
  cases o <;> simp [deref]

/-- A null pointer is a fault. -/
theorem deref_error_iff {α : Type} {o : Option α} {f : Fault} :
    deref o = .error f ↔ o = none ∧ f = .nullDeref := by
  cases o <;> simp [deref, eq_comm]

/-- Read a field through a pointer that was never assigned. -/
def readStray {α : Type} : Option α → Except Fault α
  | some a => .ok a
  | none => .error .strayRead

/-- The pointer that is never assigned is read if it meets something. -/
theorem readStray_ok_iff {α : Type} {o : Option α} {a : α} : readStray o = .ok a ↔ o = some a := by
  cases o <;> simp [readStray]

/-- Else it is a fault. -/
theorem readStray_error_iff {α : Type} {o : Option α} {f : Fault} :
    readStray o = .error f ↔ o = none ∧ f = .strayRead := by
  cases o <;> simp [readStray, eq_comm]

/-! ### ARP requests -/

/-- Send host unreachable for a queued packet, out of the interface stored with it.
Source: `sr_arpcache.c`, `sr_send_icmp_t3(sr, pkt->buf, pkt->len, pkt->iface, 3, 1)` -/
def srSendIcmpT3 (sr : SrInstance) (env : Env) (req : SrArpreq) (pkt : SrPacket) :
    Except Fault Effect := do
  let iface ← deref (srGetInterface sr pkt.iface)
  .ok (.send (.hostUnreachable req pkt) (icmpT3Frame iface pkt.buf (env.pktAfter pkt.id) 3 1)
    pkt.iface)

/-- Record that a request has been sent.
Source: `sr_arpcache.c`, `handle_arpreq`: `req->sent = now; req->times_sent++` -/
def SrArpreq.resend (now : ℤ) (req : SrArpreq) : SrArpreq :=
  { req with sent := now, timesSent := req.timesSent + 1 }

/-- A second after its last transmission, give a request up or send it again.
Source: `sr_arpcache.c`, `handle_arpreq` -/
def handleArpreq (sr : SrInstance) (env : Env) (req : ℕ) :
    Except Fault (SrInstance × List Effect) :=
  match Keyed.find SrArpreq.id req sr.cache.requests with
  | none => .error .useAfterFree
  | some node =>
      if env.clock req - node.sent ≥ 1 then
        if node.timesSent ≥ 5 then do
          let out ← node.packets.mapM (srSendIcmpT3 sr env node)
          .ok ({ sr with cache := srArpreqDestroy sr.cache req }, out)
        else do
          let pkt ← deref node.packets.head?
          let iface ← deref (srGetInterface sr pkt.iface)
          .ok ({ sr with cache.requests :=
              Keyed.modify SrArpreq.id req (SrArpreq.resend (env.clock req)) sr.cache.requests },
            [.send (.arpRequest req (env.clock req)) (createArpRequest iface node.ip) pkt.iface])
      else .ok (sr, [])

/-- The sweep from a request on. `reqs` is the chain of `next` fields from there: a call of
`handle_arpreq` changes no `next` field further down. The loop reads `req->next` after the call,
when the request may have been freed.
Source: `sr_arpcache.c`, `sr_arpcache_sweepreqs` -/
def sweepLoop (env : Env) : List ℕ → SrInstance → Except Fault (SrInstance × List Effect)
  | [], sr => .ok (sr, [])
  | req :: reqs, sr => do
      let (sr₁, out) ← handleArpreq sr env req
      let stale := if ∃ r ∈ sr₁.cache.requests, r.id = req then [] else [.danglingRead req]
      let (sr₂, out') ← sweepLoop env reqs sr₁
      .ok (sr₂, out ++ stale ++ out')

/-- Source: `sr_arpcache.c`, `sr_arpcache_sweepreqs` -/
def srArpcacheSweepreqs (sr : SrInstance) (env : Env) : Except Fault (SrInstance × List Effect) :=
  sweepLoop env (sr.cache.requests.map SrArpreq.id) sr

/-- One iteration of the timer thread: expire entries, then sweep the requests.
Source: `sr_arpcache.c`, `sr_arpcache_timeout` -/
def srArpcacheTimeout (sr : SrInstance) (env : Env) : Except Fault (SrInstance × List Effect) :=
  srArpcacheSweepreqs { sr with cache := sr.cache.expire env.now } env

/-! ### IP packets -/

/-- What `handle_ip_packet` decides, with the packet as modified in place so far. -/
inductive IpVerdict where
  /-- Nothing is sent. -/
  | drop
  /-- `send_icmp_response(sr, packet, len, interface, type, code, ip_interface)`. -/
  | respond (packet : List UInt8) (type code : UInt8) (ipInterface : Option SrIf)
  /-- Forward along `rt`; the cache has the next hop. -/
  | forward (packet : List UInt8) (rt : SrRt) (entry : SrArpentry)
  /-- Queue for the next hop of `rt`; the cache does not have it. -/
  | queue (packet : List UInt8) (rt : SrRt)
deriving DecidableEq

/-- A packet for one of the router's own addresses.
Source: `sr_router.c`, `handle_ip_packet`, the branch `ip_interface != NULL` -/
def localVerdict (packet : List UInt8) (ipInterface : SrIf) : Except Fault IpVerdict :=
  if ipP packet = 1 then
    -- `icmp_hdr->icmp_sum = 0` writes bytes 36 and 37
    if packet.length < 38 then .error .outOfBounds
    else
      let icmpSum := u16 (slice packet 36 2)
      let packet := put packet 36 (u16Bytes 0)
      if cksum (icmpPart packet) ≠ icmpSum then .ok .drop
      else if icmpType packet ≠ 8 then .ok .drop
      else .ok (.respond packet 0 0 (some ipInterface))
  else if ipP packet = 6 ∨ ipP packet = 17 then .ok (.respond packet 3 3 (some ipInterface))
  else .ok .drop

/-- A packet for elsewhere.
Source: `sr_router.c`, `handle_ip_packet`, the branch `ip_interface == NULL` -/
def transitVerdict (sr : SrInstance) (packet : List UInt8) : IpVerdict :=
  if ipTtl packet - 1 = 0 then
    -- the checksum stays zeroed on this branch
    .respond (put packet 22 [ipTtl packet - 1]) 11 0 none
  else
    let packet := rewriteTransit packet
    match srLongestPrefixMatch sr (ipDst packet) with
    | none => .respond packet 3 0 none
    | some rt =>
        match srArpcacheLookup sr.cache rt.gw with
        | some entry => .forward packet rt entry
        | none => .queue packet rt

/-- The sanity checks, then the packet's own branch. The header checksum is zeroed in place.
Source: `sr_router.c`, `handle_ip_packet` -/
def ipPacketVerdict (sr : SrInstance) (packet : List UInt8) : Except Fault IpVerdict :=
  if packet.length < 34 then .ok .drop
  else if ipSum packet ≠ cksum (ipHdr (put packet 24 (u16Bytes 0))) then .ok .drop
  else
    let packet := put packet 24 (u16Bytes 0)
    match getDstInterface sr packet with
    | some ipInterface => localVerdict packet ipInterface
    | none => .ok (transitVerdict sr packet)

/-- Answer a packet out of the interface it came in on; the source address is that of the
interface addressed, if one was. Once the ICMP part is filled in, its checksum is printed through
the outer `response_icmp_hdr`, which has no value.
Source: `sr_router.c`, `send_icmp_response` -/
def sendIcmpResponse (sr : SrInstance) (env : Env) (packet : List UInt8) (interface : IfaceName)
    (type code : UInt8) (ipInterface : Option SrIf) : Except Fault (List Effect) :=
  if packet.length < 34 then .ok []
  else do
    let _icmpSum ← readStray env.strayHdr
    let outInterface ← deref (srGetInterface sr interface)
    let ip := (ipInterface.getD outInterface).ip
    .ok [.send (.icmpResponse type code)
      (icmpResponseFrame outInterface ip packet env.after type code) interface]

/-- Source: `sr_router.c`, `handle_ip_packet` -/
def handleIpPacket (sr : SrInstance) (env : Env) (packet : List UInt8) (interface : IfaceName) :
    Except Fault (SrInstance × List Effect) := do
  match ← ipPacketVerdict sr packet with
  | .drop => .ok (sr, [])
  | .respond packet type code ipInterface =>
      let out ← sendIcmpResponse sr env packet interface type code ipInterface
      .ok (sr, out)
  | .forward packet rt entry =>
      let iface ← deref (srGetInterface sr rt.interface)
      .ok (sr, [.send .forward (rewriteEther packet iface.addr entry.mac) rt.interface])
  | .queue packet rt =>
      let queued := srArpcacheQueuereq sr.cache rt.gw packet rt.interface
      let (sr', out) ← handleArpreq { sr with cache := queued.1 } env queued.2
      .ok (sr', .enqueue rt.gw (sr.cache.newPacket packet rt.interface) :: out)

/-! ### ARP packets -/

/-- `ar_op` of a frame, in host byte order, whatever its length. -/
def arOp (packet : List UInt8) (after : ℕ → UInt8) : UInt16 := htons (u16 (load packet after 20 2))

/-- `ar_sip` of a frame. -/
def arSip (packet : List UInt8) (after : ℕ → UInt8) : UInt32 := u32 (load packet after 28 4)

/-- `ar_tip` of a frame. -/
def arTip (packet : List UInt8) (after : ℕ → UInt8) : UInt32 := u32 (load packet after 38 4)

/-- `ar_sha` of a frame. -/
def arSha (packet : List UInt8) (after : ℕ → UInt8) : EtherAddr := EtherAddr.load packet after 22

/-- Send a packet that waited for a reply: the address learned in front, and as source the
address of the interface the reply came in on.
Source: `sr_router.c`, `handle_arp_packet`, the body of the flush loop -/
def flushPacket (iface : Option SrIf) (sha : EtherAddr) (req : SrArpreq) (pkt : SrPacket) :
    Except Fault Effect := do
  let iface ← deref iface
  .ok (.send (.flush req pkt) (rewriteEther pkt.buf iface.addr sha) pkt.iface)

/-- Answer a request for the receiving interface's address; learn from a reply and send what
waited for it. There is no length check: a frame that ends before `ar_tip` is read past its end,
and the reply to it is written past its own.
Source: `sr_router.c`, `handle_arp_packet` -/
def handleArpPacket (sr : SrInstance) (env : Env) (packet : List UInt8) (interface : IfaceName) :
    Except Fault (SrInstance × List Effect) :=
  if arOp packet env.after = 1 then do
    let iface ← deref (srGetInterface sr interface)
    if arTip packet env.after = iface.ip then
      -- `response = malloc(len)` holds no 28-byte header at offset 14
      if packet.length < 42 then .error .outOfBounds
      else .ok (sr, [.send .arpReply (arpReplyFrame iface packet) interface])
    else .ok (sr, [])
  else if arOp packet env.after = 2 then
    let sha := arSha packet env.after
    let inserted := srArpcacheInsert sr.cache sha (arSip packet env.after) env.now
    match inserted.2 with
    | none => .ok ({ sr with cache := inserted.1 }, [])
    | some req => do
        let out ← req.packets.mapM (flushPacket (srGetInterface sr interface) sha req)
        .ok ({ sr with cache := srArpreqDestroy inserted.1 req.id }, out)
  else .ok (sr, [])

/-- `ether_type` of a frame, in host byte order, whatever its length.
Source: `sr_utils.c`, `ethertype` -/
def ethertype (packet : List UInt8) (after : ℕ → UInt8) : UInt16 :=
  htons (u16 (load packet after 12 2))

/-- Dispatch on the Ethernet type.
Source: `sr_router.c`, `sr_handlepacket` -/
def srHandlepacket (sr : SrInstance) (env : Env) (packet : List UInt8) (interface : IfaceName) :
    Except Fault (SrInstance × List Effect) :=
  if ethertype packet env.after = 0x0800 then handleIpPacket sr env packet interface
  else if ethertype packet env.after = 0x0806 then handleArpPacket sr env packet interface
  else .ok (sr, [])

/-! ### Sending -/

/-- The check `sr_send_packet` makes before it writes a frame out: the source address is that of
the interface.
Source: `sr_vns_comm.c`, `sr_ether_addrs_match_interface` -/
def srEtherAddrsMatchInterface (sr : SrInstance) (buf : List UInt8) (name : IfaceName) : Bool :=
  match srGetInterface sr name with
  | none => false
  | some iface => etherShost buf = iface.addr.bytes

end SimpleRouter
