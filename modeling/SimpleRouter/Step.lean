import SimpleRouter.FrameFields
import SimpleRouter.Lib.Run

/-!
# Runs of the router, and what one step can do

The router as a `Machine`: an input is a received frame, a call of `handle_arpreq` on a request, or
an iteration of the timer thread, with the environment it happens in. `srInit` is the instance
`sr_init` leaves behind, with an empty cache.

`Action i sr out sr'` says once what a step can do, guards included. Six of its ten kinds change
the cache: `queue`, `transmit` and `giveUp` the requests, `expire` the table, `learn` and `flush`
both. `step_refines` proves that every step is a sequence of actions, and every invariant of a run
is an invariant of the actions (`Machine.Inductive.run`). `Emits i sr e` says the same effect by
effect, for properties of what is sent (`Machine.Inductive.outputs`).
-/

namespace SimpleRouter

open Buffer Machine

/-- What the router reacts to. -/
inductive Event where
  /-- `sr_handlepacket` on a frame received on an interface. -/
  | packet (buf : List UInt8) (interface : IfaceName)
  /-- `handle_arpreq` on the request at an address. -/
  | arpreq (req : ℕ)
  /-- An iteration of `sr_arpcache_timeout`. -/
  | timer

/-- An event and its environment. -/
structure Input where
  /-- What the handler learns from outside. -/
  env : Env
  /-- What happens. -/
  event : Event

/-- One step of the router. -/
def step (sr : SrInstance) (i : Input) : Except Fault (SrInstance × List Effect) :=
  match i.event with
  | .packet buf interface => srHandlepacket sr i.env buf interface
  | .arpreq req => handleArpreq sr i.env req
  | .timer => srArpcacheTimeout sr i.env

/-- The instance after initialisation.
Source: `sr_router.c`, `sr_init` -/
def srInit (ifList : List SrIf) (routingTable : List SrRt) : SrInstance :=
  ⟨ifList, routingTable, srArpcacheInit⟩

/-- The inputs and effects of a run so far. -/
abbrev History := List (Input × List Effect)

/-- The input is an ARP reply received on an interface, with these sender addresses. -/
def Input.IsReply (i : Input) (interface : IfaceName) (sip : UInt32) (sha : EtherAddr) : Prop :=
  ∃ buf, i.event = .packet buf interface ∧ ethertype buf i.env.after = 0x0806 ∧
    arOp buf i.env.after = 2 ∧ arSip buf i.env.after = sip ∧ arSha buf i.env.after = sha

/-! ### The actions -/

/-- The effects of the flush loop: one call of `sr_send_packet` for each packet, in order. -/
def FlushOut (sr : SrInstance) (interface : IfaceName) (sha : EtherAddr) (req : SrArpreq)
    (out : List Effect) : Prop :=
  List.Forall₂ (fun pkt e => ∃ iface, srGetInterface sr interface = some iface ∧
    e = .send (.flush req pkt) (rewriteEther pkt.buf iface.addr sha) pkt.iface) req.packets out

/-- The effects of giving a request up: one host unreachable for each packet, in order. -/
def GiveUpOut (sr : SrInstance) (env : Env) (req : SrArpreq) (out : List Effect) : Prop :=
  List.Forall₂ (fun pkt e => ∃ iface, srGetInterface sr pkt.iface = some iface ∧
    e = .send (.hostUnreachable req pkt)
      (icmpT3Frame iface pkt.buf (env.pktAfter pkt.id) 3 1) pkt.iface) req.packets out

/-- The cache after learning from an ARP reply. -/
def learnCache (sr : SrInstance) (env : Env) (buf : List UInt8) : SrArpcache :=
  (srArpcacheInsert sr.cache (arSha buf env.after) (arSip buf env.after) env.now).1

/-- The cache after the request at `req` has been sent at `now`. -/
def resendCache (cache : SrArpcache) (req : ℕ) (now : ℤ) : SrArpcache :=
  { cache with requests := Keyed.modify SrArpreq.id req (SrArpreq.resend now) cache.requests }

/-- **What a step can do.** An action of the input `i` in the instance `sr`, with its effects and
the instance after it. -/
inductive Action (i : Input) (sr : SrInstance) : List Effect → SrInstance → Prop
  /-- Answer an IP packet. -/
  | respond {buf packet : List UInt8} {interface : IfaceName} {type code : UInt8}
      {ipInterface : Option SrIf} {outInterface : SrIf} (hevent : i.event = .packet buf interface)
      (htype : ethertype buf i.env.after = 0x0800)
      (hverdict : ipPacketVerdict sr buf = .ok (.respond packet type code ipInterface))
      (hout : srGetInterface sr interface = some outInterface) :
      Action i sr [.send (.icmpResponse type code) (icmpResponseFrame outInterface
        (ipInterface.getD outInterface).ip packet i.env.after type code) interface] sr
  /-- Forward an IP packet whose next hop is in the cache. -/
  | forward {buf packet : List UInt8} {interface : IfaceName} {rt : SrRt} {entry : SrArpentry}
      {iface : SrIf} (hevent : i.event = .packet buf interface)
      (htype : ethertype buf i.env.after = 0x0800)
      (hverdict : ipPacketVerdict sr buf = .ok (.forward packet rt entry))
      (hiface : srGetInterface sr rt.interface = some iface) :
      Action i sr [.send .forward (rewriteEther packet iface.addr entry.mac) rt.interface] sr
  /-- Queue an IP packet whose next hop is not in the cache. -/
  | queue {buf packet : List UInt8} {interface : IfaceName} {rt : SrRt}
      (hevent : i.event = .packet buf interface) (htype : ethertype buf i.env.after = 0x0800)
      (hverdict : ipPacketVerdict sr buf = .ok (.queue packet rt)) :
      Action i sr [.enqueue rt.gw (sr.cache.newPacket packet rt.interface)]
        { sr with cache := (srArpcacheQueuereq sr.cache rt.gw packet rt.interface).1 }
  /-- Answer an ARP request. -/
  | reply {buf : List UInt8} {interface : IfaceName} {iface : SrIf}
      (hevent : i.event = .packet buf interface) (htype : ethertype buf i.env.after = 0x0806)
      (hlen : 42 ≤ buf.length)
      (hiface : srGetInterface sr interface = some iface) :
      Action i sr [.send .arpReply (arpReplyFrame iface buf) interface] sr
  /-- Learn from an ARP reply nobody waits for. -/
  | learn {buf : List UInt8} {interface : IfaceName} (hevent : i.event = .packet buf interface)
      (htype : ethertype buf i.env.after = 0x0806) (hop : arOp buf i.env.after = 2)
      (hfind : Keyed.find SrArpreq.ip (arSip buf i.env.after) sr.cache.requests = none) :
      Action i sr [] { sr with cache := learnCache sr i.env buf }
  /-- Learn from an ARP reply and flush the request that waits for it. -/
  | flush {buf : List UInt8} {interface : IfaceName} {req : SrArpreq} {out : List Effect}
      (hevent : i.event = .packet buf interface) (htype : ethertype buf i.env.after = 0x0806)
      (hop : arOp buf i.env.after = 2)
      (hfind : Keyed.find SrArpreq.ip (arSip buf i.env.after) sr.cache.requests = some req)
      (hout : FlushOut sr interface (arSha buf i.env.after) req out) :
      Action i sr out { sr with cache := srArpreqDestroy (learnCache sr i.env buf) req.id }
  /-- Send an ARP request. -/
  | transmit {req : SrArpreq} {pkt : SrPacket} {iface : SrIf}
      (hfind : Keyed.find SrArpreq.id req.id sr.cache.requests = some req)
      (hdue : i.env.clock req.id - req.sent ≥ 1) (htimes : req.timesSent < 5)
      (hhead : req.packets.head? = some pkt)
      (hiface : srGetInterface sr pkt.iface = some iface) :
      Action i sr [.send (.arpRequest req.id (i.env.clock req.id)) (createArpRequest iface req.ip)
          pkt.iface]
        { sr with cache := resendCache sr.cache req.id (i.env.clock req.id) }
  /-- Give a request up. -/
  | giveUp {req : SrArpreq} {out : List Effect}
      (hfind : Keyed.find SrArpreq.id req.id sr.cache.requests = some req)
      (hdue : i.env.clock req.id - req.sent ≥ 1) (htimes : req.timesSent ≥ 5)
      (hout : GiveUpOut sr i.env req out) :
      Action i sr out { sr with cache := srArpreqDestroy sr.cache req.id }
  /-- Expire table entries. -/
  | expire (hevent : i.event = .timer) :
      Action i sr [] { sr with cache := sr.cache.expire i.env.now }
  /-- Read the `next` field of a freed request. -/
  | dangling {req : ℕ} (hevent : i.event = .timer) : Action i sr [.danglingRead req] sr

/-! ### Every step is a path of actions -/

section refines

variable {i : Input} {sr sr' : SrInstance} {out : List Effect}

/-- `handle_arpreq` does nothing, sends, or gives up. -/
theorem handleArpreq_cases {env : Env} {req : ℕ}
    (h : handleArpreq sr env req = .ok (sr', out)) :
    ∃ node, Keyed.find SrArpreq.id req sr.cache.requests = some node ∧
      ((¬ env.clock req - node.sent ≥ 1 ∧ sr' = sr ∧ out = []) ∨
       (env.clock req - node.sent ≥ 1 ∧ node.timesSent ≥ 5 ∧ GiveUpOut sr env node out ∧
          sr' = { sr with cache := srArpreqDestroy sr.cache req }) ∨
       (env.clock req - node.sent ≥ 1 ∧ node.timesSent < 5 ∧
          ∃ pkt iface, node.packets.head? = some pkt ∧ srGetInterface sr pkt.iface = some iface ∧
          out = [.send (.arpRequest req (env.clock req)) (createArpRequest iface node.ip)
            pkt.iface] ∧
          sr' = { sr with cache := resendCache sr.cache req (env.clock req) })) := by
  unfold handleArpreq at h
  cases hfind : Keyed.find SrArpreq.id req sr.cache.requests with
  | none => simp [hfind] at h
  | some node =>
      refine ⟨node, rfl, ?_⟩
      simp only [hfind] at h
      split_ifs at h with hdue htimes
      · obtain ⟨o, ho, h⟩ := ok_bind_iff.mp h
        obtain ⟨rfl, rfl⟩ := Prod.mk.inj (Except.ok.inj h)
        refine .inr (.inl ⟨hdue, htimes, ?_, rfl⟩)
        refine (mapM_ok_iff.mp ho).imp fun pkt e he => ?_
        obtain ⟨iface, hiface, he⟩ := ok_bind_iff.mp he
        exact ⟨iface, deref_ok_iff.mp hiface, (Except.ok.inj he).symm⟩
      · obtain ⟨pkt, hpkt, h⟩ := ok_bind_iff.mp h
        obtain ⟨iface, hiface, h⟩ := ok_bind_iff.mp h
        obtain ⟨rfl, rfl⟩ := Prod.mk.inj (Except.ok.inj h)
        exact .inr (.inr ⟨hdue, by omega, pkt, iface, deref_ok_iff.mp hpkt,
          deref_ok_iff.mp hiface, rfl, rfl⟩)
      · obtain ⟨rfl, rfl⟩ := Prod.mk.inj (Except.ok.inj h)
        exact .inl ⟨hdue, rfl, rfl⟩

/-- `handle_arpreq` is a path of actions. -/
theorem handleArpreq_path {req : ℕ} (h : handleArpreq sr i.env req = .ok (sr', out)) :
    Path (Action i) sr out sr' := by
  obtain ⟨node, hfind, hcases⟩ := handleArpreq_cases h
  obtain rfl := Keyed.key_of_find hfind
  rcases hcases with ⟨-, rfl, rfl⟩ | ⟨hdue, htimes, hout, rfl⟩ |
    ⟨hdue, htimes, pkt, iface, hhead, hiface, rfl, rfl⟩
  · exact .refl
  · exact .single (.giveUp hfind hdue htimes hout)
  · exact .single (.transmit hfind hdue htimes hhead hiface)

/-- The sweep handles its first request, and goes on with the queue that leaves. -/
theorem sweepLoop_cons {env : Env} {req : ℕ} {reqs : List ℕ}
    (h : sweepLoop env (req :: reqs) sr = .ok (sr', out)) :
    ∃ sr₁ out₁ out₂, handleArpreq sr env req = .ok (sr₁, out₁) ∧
      sweepLoop env reqs sr₁ = .ok (sr', out₂) ∧
      out = out₁ ++ (if ∃ r ∈ sr₁.cache.requests, r.id = req then []
        else [.danglingRead req]) ++ out₂ := by
  obtain ⟨⟨sr₁, out₁⟩, h₁, h⟩ := ok_bind_iff.mp h
  obtain ⟨⟨sr₂, out₂⟩, h₂, h⟩ := ok_bind_iff.mp h
  obtain ⟨rfl, rfl⟩ := Prod.mk.inj (Except.ok.inj h)
  exact ⟨sr₁, out₁, out₂, h₁, h₂, rfl⟩

/-- So is the sweep. -/
theorem sweepLoop_path (hevent : i.event = .timer) (reqs : List ℕ)
    (h : sweepLoop i.env reqs sr = .ok (sr', out)) : Path (Action i) sr out sr' := by
  induction reqs generalizing sr sr' out with
  | nil =>
      obtain ⟨rfl, rfl⟩ := Prod.mk.inj (Except.ok.inj h)
      exact .refl
  | cons req reqs ih =>
      obtain ⟨sr₁, out₁, out₂, h₁, h₂, rfl⟩ := sweepLoop_cons h
      refine ((handleArpreq_path h₁).append ?_).append (ih h₂)
      split_ifs
      · exact .refl
      · exact .single (.dangling hevent)

/-- An answer goes out once the stray field has been read and the interface is there. -/
theorem sendIcmpResponse_eq {env : Env} {packet : List UInt8} {interface : IfaceName}
    {type code : UInt8} {ipInterface : Option SrIf} {outInterface : SrIf}
    (hlen : 34 ≤ packet.length) (hstray : env.strayHdr.isSome)
    (hout : srGetInterface sr interface = some outInterface) :
    sendIcmpResponse sr env packet interface type code ipInterface =
      .ok [.send (.icmpResponse type code) (icmpResponseFrame outInterface
        (ipInterface.getD outInterface).ip packet env.after type code) interface] := by
  obtain ⟨icmpSum, hstray⟩ := Option.isSome_iff_exists.mp hstray
  rw [sendIcmpResponse, if_neg (by omega), hstray, hout]
  rfl

/-- Without it, nothing goes out and the router stops. -/
theorem sendIcmpResponse_stray {env : Env} {packet : List UInt8} {interface : IfaceName}
    {type code : UInt8} {ipInterface : Option SrIf} (hlen : 34 ≤ packet.length)
    (hstray : env.strayHdr = none) :
    sendIcmpResponse sr env packet interface type code ipInterface = .error .strayRead := by
  rw [sendIcmpResponse, if_neg (by omega), hstray]
  rfl

/-- What it takes to send an answer, and the answer. -/
theorem sendIcmpResponse_ok {env : Env} {packet : List UInt8} {interface : IfaceName}
    {type code : UInt8} {ipInterface : Option SrIf} (hlen : 34 ≤ packet.length)
    (h : sendIcmpResponse sr env packet interface type code ipInterface = .ok out) :
    env.strayHdr.isSome ∧ ∃ outInterface, srGetInterface sr interface = some outInterface ∧
      out = [.send (.icmpResponse type code) (icmpResponseFrame outInterface
        (ipInterface.getD outInterface).ip packet env.after type code) interface] := by
  rw [sendIcmpResponse, if_neg (by omega)] at h
  obtain ⟨icmpSum, hstray, h⟩ := ok_bind_iff.mp h
  obtain ⟨outInterface, hout, h⟩ := ok_bind_iff.mp h
  exact ⟨Option.isSome_iff_exists.mpr ⟨icmpSum, readStray_ok_iff.mp hstray⟩, outInterface,
    deref_ok_iff.mp hout, (Except.ok.inj h).symm⟩

/-- `handle_ip_packet` does what it decides. -/
theorem handleIpPacket_cases {env : Env} {buf : List UInt8} {interface : IfaceName}
    (h : handleIpPacket sr env buf interface = .ok (sr', out)) :
    (sr' = sr ∧ out = []) ∨
      (∃ packet type code ipInterface outInterface,
        ipPacketVerdict sr buf = .ok (.respond packet type code ipInterface) ∧
        env.strayHdr.isSome ∧ srGetInterface sr interface = some outInterface ∧ sr' = sr ∧
        out = [.send (.icmpResponse type code) (icmpResponseFrame outInterface
          (ipInterface.getD outInterface).ip packet env.after type code) interface]) ∨
      (∃ packet rt entry iface, ipPacketVerdict sr buf = .ok (.forward packet rt entry) ∧
        srGetInterface sr rt.interface = some iface ∧ sr' = sr ∧
        out = [.send .forward (rewriteEther packet iface.addr entry.mac) rt.interface]) ∨
      (∃ packet rt out₁, ipPacketVerdict sr buf = .ok (.queue packet rt) ∧
        handleArpreq { sr with
            cache := (srArpcacheQueuereq sr.cache rt.gw packet rt.interface).1 } env
          (srArpcacheQueuereq sr.cache rt.gw packet rt.interface).2 = .ok (sr', out₁) ∧
        out = .enqueue rt.gw (sr.cache.newPacket packet rt.interface) :: out₁) := by
  obtain ⟨verdict, hverdict, h⟩ := ok_bind_iff.mp h
  cases verdict with
  | drop =>
      obtain ⟨rfl, rfl⟩ := Prod.mk.inj (Except.ok.inj h)
      exact .inl ⟨rfl, rfl⟩
  | respond packet type code ipInterface =>
      obtain ⟨o, ho, h⟩ := ok_bind_iff.mp h
      obtain ⟨rfl, rfl⟩ := Prod.mk.inj (Except.ok.inj h)
      by_cases hlen : packet.length < 34
      · rw [sendIcmpResponse, if_pos hlen] at ho
        exact .inl ⟨rfl, (Except.ok.inj ho).symm⟩
      · obtain ⟨hstray, outInterface, hout, rfl⟩ := sendIcmpResponse_ok (by omega) ho
        exact .inr (.inl ⟨packet, type, code, ipInterface, outInterface, hverdict, hstray, hout,
          rfl, rfl⟩)
  | forward packet rt entry =>
      obtain ⟨iface, hiface, h⟩ := ok_bind_iff.mp h
      obtain ⟨rfl, rfl⟩ := Prod.mk.inj (Except.ok.inj h)
      exact .inr (.inr (.inl ⟨packet, rt, entry, iface, hverdict, deref_ok_iff.mp hiface, rfl,
        rfl⟩))
  | queue packet rt =>
      obtain ⟨⟨sr₁, out₁⟩, h₁, h⟩ := ok_bind_iff.mp h
      obtain ⟨rfl, rfl⟩ := Prod.mk.inj (Except.ok.inj h)
      exact .inr (.inr (.inr ⟨packet, rt, out₁, hverdict, h₁, rfl⟩))

/-- So is the handling of an IP packet. -/
theorem handleIpPacket_path {buf : List UInt8} {interface : IfaceName}
    (hevent : i.event = .packet buf interface) (htype : ethertype buf i.env.after = 0x0800)
    (h : handleIpPacket sr i.env buf interface = .ok (sr', out)) : Path (Action i) sr out sr' := by
  rcases handleIpPacket_cases h with ⟨rfl, rfl⟩ | ⟨_, _, _, _, _, hverdict, -, hout, rfl, rfl⟩ |
    ⟨_, _, _, _, hverdict, hiface, rfl, rfl⟩ | ⟨_, _, _, hverdict, h₁, rfl⟩
  · exact .refl
  · exact .single (.respond hevent htype hverdict hout)
  · exact .single (.forward hevent htype hverdict hiface)
  · exact (Path.single (.queue hevent htype hverdict)).append (handleArpreq_path h₁)

/-- `handle_arp_packet` learns from a reply, and flushes the request that waits for it. -/
theorem handleArpPacket_reply {env : Env} {buf : List UInt8} {interface : IfaceName}
    (hop : arOp buf env.after = 2)
    (h : handleArpPacket sr env buf interface = .ok (sr', out)) :
    (Keyed.find SrArpreq.ip (arSip buf env.after) sr.cache.requests = none ∧ out = [] ∧
        sr' = { sr with cache := learnCache sr env buf }) ∨
      ∃ req, Keyed.find SrArpreq.ip (arSip buf env.after) sr.cache.requests = some req ∧
        FlushOut sr interface (arSha buf env.after) req out ∧
        sr' = { sr with cache := srArpreqDestroy (learnCache sr env buf) req.id } := by
  unfold handleArpPacket at h
  rw [if_neg (by rw [hop]; decide), if_pos hop] at h
  dsimp only [srArpcacheInsert] at h
  cases hfind : Keyed.find SrArpreq.ip (arSip buf env.after) sr.cache.requests with
  | none =>
      simp only [hfind] at h
      obtain ⟨rfl, rfl⟩ := Prod.mk.inj (Except.ok.inj h)
      exact .inl ⟨rfl, rfl, rfl⟩
  | some req =>
      simp only [hfind] at h
      obtain ⟨o, ho, h⟩ := ok_bind_iff.mp h
      obtain ⟨rfl, rfl⟩ := Prod.mk.inj (Except.ok.inj h)
      refine .inr ⟨req, rfl, (mapM_ok_iff.mp ho).imp fun pkt e he => ?_, rfl⟩
      obtain ⟨iface, hiface, he⟩ := ok_bind_iff.mp he
      exact ⟨iface, deref_ok_iff.mp hiface, (Except.ok.inj he).symm⟩

/-- `handle_arp_packet` answers a request for the interface's address, and ignores the rest. -/
theorem handleArpPacket_request {env : Env} {buf : List UInt8} {interface : IfaceName}
    (hop : arOp buf env.after ≠ 2) (h : handleArpPacket sr env buf interface = .ok (sr', out)) :
    sr' = sr ∧ (out = [] ∨ ∃ iface, 42 ≤ buf.length ∧ srGetInterface sr interface = some iface ∧
      out = [.send .arpReply (arpReplyFrame iface buf) interface]) := by
  unfold handleArpPacket at h
  by_cases hrequest : arOp buf env.after = 1
  · rw [if_pos hrequest] at h
    obtain ⟨iface, hiface, h⟩ := ok_bind_iff.mp h
    split_ifs at h with htip hlen
    · obtain ⟨rfl, rfl⟩ := Prod.mk.inj (Except.ok.inj h)
      exact ⟨rfl, .inr ⟨iface, by omega, deref_ok_iff.mp hiface, rfl⟩⟩
    · obtain ⟨rfl, rfl⟩ := Prod.mk.inj (Except.ok.inj h)
      exact ⟨rfl, .inl rfl⟩
  · rw [if_neg hrequest, if_neg hop] at h
    obtain ⟨rfl, rfl⟩ := Prod.mk.inj (Except.ok.inj h)
    exact ⟨rfl, .inl rfl⟩

/-- So is the handling of an ARP packet. -/
theorem handleArpPacket_path {buf : List UInt8} {interface : IfaceName}
    (hevent : i.event = .packet buf interface) (htype : ethertype buf i.env.after = 0x0806)
    (h : handleArpPacket sr i.env buf interface = .ok (sr', out)) :
    Path (Action i) sr out sr' := by
  by_cases hop : arOp buf i.env.after = 2
  · rcases handleArpPacket_reply hop h with ⟨hfind, rfl, rfl⟩ | ⟨req, hfind, hout, rfl⟩
    · exact .single (.learn hevent htype hop hfind)
    · exact .single (.flush hevent htype hop hfind hout)
  · rcases handleArpPacket_request hop h with ⟨rfl, rfl | ⟨iface, hlen, hiface, rfl⟩⟩
    · exact .refl
    · exact .single (.reply hevent htype hlen hiface)

end refines

/-- **Every step of the router is a sequence of actions.** -/
theorem step_refines : Refines step Action := by
  intro sr i sr' out h
  unfold step at h
  split at h
  · rename_i buf interface hevent
    unfold srHandlepacket at h
    split_ifs at h with hip harp
    · exact handleIpPacket_path hevent hip h
    · exact handleArpPacket_path hevent harp h
    · obtain ⟨rfl, rfl⟩ := Prod.mk.inj (Except.ok.inj h)
      exact .refl
  · exact handleArpreq_path h
  · rename_i hevent
    exact (Path.single (.expire hevent)).append (sweepLoop_path hevent _ h)

/-! ### What an action emits -/

/-- **Where an effect comes from**: the input and the instance in which an action has it. -/
inductive Emits (i : Input) (sr : SrInstance) : Effect → Prop
  /-- An answer to an IP packet. -/
  | respond {buf packet : List UInt8} {interface : IfaceName} {type code : UInt8}
      {ipInterface : Option SrIf} {outInterface : SrIf} (hevent : i.event = .packet buf interface)
      (htype : ethertype buf i.env.after = 0x0800)
      (hverdict : ipPacketVerdict sr buf = .ok (.respond packet type code ipInterface))
      (hout : srGetInterface sr interface = some outInterface) :
      Emits i sr (.send (.icmpResponse type code) (icmpResponseFrame outInterface
        (ipInterface.getD outInterface).ip packet i.env.after type code) interface)
  /-- A packet forwarded at once. -/
  | forward {buf packet : List UInt8} {interface : IfaceName} {rt : SrRt} {entry : SrArpentry}
      {iface : SrIf} (hevent : i.event = .packet buf interface)
      (htype : ethertype buf i.env.after = 0x0800)
      (hverdict : ipPacketVerdict sr buf = .ok (.forward packet rt entry))
      (hiface : srGetInterface sr rt.interface = some iface) :
      Emits i sr (.send .forward (rewriteEther packet iface.addr entry.mac) rt.interface)
  /-- A packet queued. -/
  | queue {buf packet : List UInt8} {interface : IfaceName} {rt : SrRt}
      (hevent : i.event = .packet buf interface) (htype : ethertype buf i.env.after = 0x0800)
      (hverdict : ipPacketVerdict sr buf = .ok (.queue packet rt)) :
      Emits i sr (.enqueue rt.gw (sr.cache.newPacket packet rt.interface))
  /-- An ARP reply. -/
  | reply {buf : List UInt8} {interface : IfaceName} {iface : SrIf}
      (hevent : i.event = .packet buf interface) (htype : ethertype buf i.env.after = 0x0806)
      (hlen : 42 ≤ buf.length) (hiface : srGetInterface sr interface = some iface) :
      Emits i sr (.send .arpReply (arpReplyFrame iface buf) interface)
  /-- A packet flushed. -/
  | flush {interface : IfaceName} {sha : EtherAddr} {req : SrArpreq} {pkt : SrPacket}
      {iface : SrIf} (hreply : i.IsReply interface req.ip sha) (hreq : req ∈ sr.cache.requests)
      (hpkt : pkt ∈ req.packets) (hiface : srGetInterface sr interface = some iface) :
      Emits i sr (.send (.flush req pkt) (rewriteEther pkt.buf iface.addr sha) pkt.iface)
  /-- An ARP request. -/
  | transmit {req : SrArpreq} {pkt : SrPacket} {iface : SrIf} (hreq : req ∈ sr.cache.requests)
      (hpkt : pkt ∈ req.packets) (hiface : srGetInterface sr pkt.iface = some iface) :
      Emits i sr (.send (.arpRequest req.id (i.env.clock req.id)) (createArpRequest iface req.ip)
        pkt.iface)
  /-- A host unreachable. -/
  | giveUp {req : SrArpreq} {pkt : SrPacket} {iface : SrIf} (hreq : req ∈ sr.cache.requests)
      (hpkt : pkt ∈ req.packets) (hiface : srGetInterface sr pkt.iface = some iface) :
      Emits i sr (.send (.hostUnreachable req pkt)
        (icmpT3Frame iface pkt.buf (i.env.pktAfter pkt.id) 3 1) pkt.iface)
  /-- A read of freed memory. -/
  | dangling {req : ℕ} (hevent : i.event = .timer) : Emits i sr (.danglingRead req)

/-- What an action does, its input calls for. -/
theorem Action.emits {i : Input} {sr sr' : SrInstance} {out : List Effect} {e : Effect}
    (h : Action i sr out sr') (he : e ∈ out) : Emits i sr e := by
  cases h with
  | respond hevent htype hverdict hout =>
      obtain rfl := List.mem_singleton.mp he
      exact .respond hevent htype hverdict hout
  | forward hevent htype hverdict hiface =>
      obtain rfl := List.mem_singleton.mp he
      exact .forward hevent htype hverdict hiface
  | queue hevent htype hverdict =>
      obtain rfl := List.mem_singleton.mp he
      exact .queue hevent htype hverdict
  | reply hevent htype hlen hiface =>
      obtain rfl := List.mem_singleton.mp he
      exact .reply hevent htype hlen hiface
  | learn | expire => cases he
  | flush hevent htype hop hfind hout =>
      obtain ⟨pkt, hpkt, iface, hiface, rfl⟩ := exists_round hout he
      exact .flush ⟨_, hevent, htype, hop, (Keyed.key_of_find hfind).symm, rfl⟩
        (Keyed.mem_of_find hfind) hpkt hiface
  | transmit hfind _ _ hhead hiface =>
      obtain rfl := List.mem_singleton.mp he
      exact .transmit (Keyed.mem_of_find hfind) (List.mem_of_mem_head? hhead) hiface
  | giveUp hfind _ _ hout =>
      obtain ⟨pkt, hpkt, iface, hiface, rfl⟩ := exists_round hout he
      exact .giveUp (Keyed.mem_of_find hfind) hpkt hiface
  | dangling hevent =>
      obtain rfl := List.mem_singleton.mp he
      exact .dangling hevent

/-- A flush answers an ARP reply from the address of the request: it is the queued packet with the
address learned in front, and as source that of the interface the reply came in on. -/
theorem Emits.flushed {i : Input} {sr : SrInstance} {req : SrArpreq} {pkt : SrPacket}
    {p : List UInt8} {name : IfaceName} (h : Emits i sr (.send (.flush req pkt) p name)) :
    ∃ interface sha iface, i.IsReply interface req.ip sha ∧
      srGetInterface sr interface = some iface ∧ p = rewriteEther pkt.buf iface.addr sha ∧
      name = pkt.iface := by
  cases h with
  | flush hreply hreq hpkt hiface => exact ⟨_, _, _, hreply, hiface, rfl, rfl⟩

/-- A host unreachable is what `sr_send_icmp_t3` builds for the queued packet. -/
theorem Emits.unreachable {i : Input} {sr : SrInstance} {req : SrArpreq} {pkt : SrPacket}
    {p : List UInt8} {name : IfaceName}
    (h : Emits i sr (.send (.hostUnreachable req pkt) p name)) :
    ∃ iface, srGetInterface sr pkt.iface = some iface ∧
      p = icmpT3Frame iface pkt.buf (i.env.pktAfter pkt.id) 3 1 ∧ name = pkt.iface := by
  cases h with
  | giveUp hreq hpkt hiface => exact ⟨_, hiface, rfl, rfl⟩

/-! ### What no action changes -/

/-- Interfaces and routes stay what they are. -/
theorem Action.frame {i : Input} {sr sr' : SrInstance} {out : List Effect}
    (h : Action i sr out sr') : sr'.ifList = sr.ifList ∧ sr'.routingTable = sr.routingTable := by
  cases h <;> exact ⟨rfl, rfl⟩

end SimpleRouter
