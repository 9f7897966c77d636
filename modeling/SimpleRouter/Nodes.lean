import SimpleRouter.Sweep

/-!
# The request queue in memory

The router with its queue as the C program has it: requests and packets are nodes that are allocated
and freed, linked by pointers. Reading or freeing a node that is not allocated ends the program. A
node that is freed is not allocated again: what is allocated later is at another address.

* `NodeInstance.queuereq`, `.insert`, `.arpreqDestroy`, `.handleArpreq`, `.sweepreqs`, `nodeStep` —
  the functions of the router over nodes.
* `NodeInstance.Holds` — **the memory holds a queue**: its requests, and the packets of each, are
  linked in order, and every node that is allocated is on the queue. `Owned` is the same of requests
  of which some have been unlinked.
* `Holds.calloc`, `.addPacket`, `.queuereq`, `.resend`, `.insert`, `Owned.arpreqDestroy` — what each
  function leaves in memory.
-/

namespace SimpleRouter

open Machine

/-! ### Functions over nodes -/

/-- A node of the queue.
Source: `sr_arpcache.h`, `struct sr_arpreq`, but for `next` -/
structure ReqNode where
  /-- The node's address. -/
  id : ℕ
  /-- `ip`. -/
  ip : UInt32
  /-- `sent`. -/
  sent : ℤ
  /-- `times_sent`. -/
  timesSent : ℕ
  /-- `packets`. -/
  packets : Option ℕ

/-- The node of a request. -/
def SrArpreq.node (req : SrArpreq) : ReqNode :=
  ⟨req.id, req.ip, req.sent, req.timesSent, req.packets.head?.map SrPacket.id⟩

/-- The node with its packets. -/
def ReqNode.request (node : ReqNode) (packets : List SrPacket) : SrArpreq :=
  ⟨node.id, node.ip, node.sent, node.timesSent, packets⟩

/-- Source: `sr_arpcache.c`, `handle_arpreq`: `req->sent = now; req->times_sent++` -/
def ReqNode.resend (now : ℤ) (node : ReqNode) : ReqNode :=
  { node with sent := now, timesSent := node.timesSent + 1 }

/-- The router with its queue in memory. -/
structure NodeInstance where
  /-- The rest of the instance; its own queue is not used. -/
  sr : SrInstance
  /-- `cache.requests`. -/
  requests : Option ℕ
  /-- The `sr_arpreq` nodes. -/
  reqs : Linked.Store ReqNode
  /-- The `sr_packet` nodes, each with its copy of the packet and the name. -/
  pkts : Linked.Store SrPacket

namespace NodeInstance

/-- Read a node. -/
def read {ν : Type} (nodes : Linked.Store ν) (a : ℕ) : Except WalkStop (Linked.Cell ν) :=
  match nodes a with
  | some cell => .ok cell
  | none => .error (.fault .useAfterFree)

/-- Write a request. -/
def write (h : NodeInstance) (a : ℕ) (cell : Linked.Cell ReqNode) : NodeInstance :=
  { h with reqs := Function.update h.reqs a (some cell) }

/-- The result of a walk, if it has got through. -/
def walk {α : Type} : Option α → Except WalkStop α
  | some a => .ok a
  | none => .error .unfinished

/-- Unlink a request if it is on the queue, free its packets, and free it.
Source: `sr_arpcache.c`, `sr_arpreq_destroy` -/
def arpreqDestroy (h : NodeInstance) (entry : ℕ) : Except WalkStop NodeInstance := do
  let (reqs, requests) ←
    walk (Linked.unlink entry h.reqs h.requests h.sr.cache.reqSeq none h.requests)
  let cell ← read reqs entry
  let pkts ← walk (Linked.freeAll h.pkts h.sr.cache.pktSeq cell.val.packets)
  .ok { h with requests := requests, reqs := Function.update reqs entry none, pkts := pkts }

/-- Source: `sr_arpcache.c`, `handle_arpreq` -/
def handleArpreq (h : NodeInstance) (env : Env) (req : ℕ) :
    Except WalkStop (NodeInstance × List Effect) := do
  let cell ← read h.reqs req
  if env.clock req - cell.val.sent ≥ 1 then
    if cell.val.timesSent ≥ 5 then do
      let packets ← walk (Linked.contents h.pkts h.sr.cache.pktSeq cell.val.packets)
      let out ← (packets.mapM (srSendIcmpT3 h.sr env (cell.val.request packets))).mapError .fault
      let h' ← h.arpreqDestroy req
      .ok (h', out)
    else do
      let first ← (deref cell.val.packets).mapError .fault
      let pkt ← read h.pkts first
      let iface ← (deref (srGetInterface h.sr pkt.val.iface)).mapError .fault
      .ok (h.write req { cell with val := cell.val.resend (env.clock req) },
        [.send (.arpRequest req (env.clock req)) (createArpRequest iface cell.val.ip)
          pkt.val.iface])
  else .ok (h, [])

/-- The sweep from the pointer `req` on.
Source: `sr_arpcache.c`, `sr_arpcache_sweepreqs`, the loop -/
def sweepFrom (env : Env) :
    ℕ → NodeInstance → Option ℕ → Except WalkStop (NodeInstance × List Effect)
  | _, h, none => .ok (h, [])
  | 0, _, some _ => .error .unfinished
  | n + 1, h, some req => do
      let (h₁, out) ← h.handleArpreq env req
      -- `req = req->next`
      let cell ← read h₁.reqs req
      let (h₂, out') ← sweepFrom env n h₁ cell.next
      .ok (h₂, out ++ out')

/-- Source: `sr_arpcache.c`, `sr_arpcache_sweepreqs` -/
def sweepreqs (h : NodeInstance) (env : Env) : Except WalkStop (NodeInstance × List Effect) :=
  sweepFrom env h.sr.cache.reqSeq h h.requests

/-- Source: `sr_arpcache.c`, `sr_arpcache_timeout` -/
def arpcacheTimeout (h : NodeInstance) (env : Env) : Except WalkStop (NodeInstance × List Effect) :=
  { h with sr := { h.sr with cache := h.sr.cache.expire env.now } : NodeInstance }.sweepreqs env

/-- A new request, in front of the others.
Source: `sr_arpcache.c`, `sr_arpcache_queuereq`, the branch `!req` -/
def calloc (h : NodeInstance) (ip : UInt32) : NodeInstance :=
  { h with
    sr := { h.sr with cache := { h.sr.cache with reqSeq := h.sr.cache.reqSeq + 1 } }
    requests := some h.sr.cache.reqSeq
    reqs := Function.update h.reqs h.sr.cache.reqSeq
      (some ⟨⟨h.sr.cache.reqSeq, ip, 0, 0, none⟩, h.requests⟩) }

/-- A new packet, in front of the others of a request.
Source: `sr_arpcache.c`, `sr_arpcache_queuereq`, `if (packet && packet_len && iface)` -/
def addPacket (h : NodeInstance) (req : ℕ) (pkt : SrPacket) : Except WalkStop NodeInstance := do
  let h' : NodeInstance :=
    { h with sr := { h.sr with cache := { h.sr.cache with pktSeq := h.sr.cache.pktSeq + 1 } } }
  if pkt.buf.length ≠ 0 then do
    let cell ← read h.reqs req
    .ok { h'.write req { cell with val := { cell.val with packets := some pkt.id } } with
      pkts := Function.update h.pkts pkt.id (some ⟨pkt, cell.val.packets⟩) }
  else .ok h'

/-- Source: `sr_arpcache.c`, `sr_arpcache_queuereq` -/
def queuereq (h : NodeInstance) (ip : UInt32) (packet : List UInt8) (iface : IfaceName) :
    Except WalkStop (NodeInstance × ℕ) := do
  let found ←
    walk (Linked.search (fun node => node.ip = ip) h.reqs h.sr.cache.reqSeq h.requests)
  match found with
  | some req => do
      let h' ← h.addPacket req (h.sr.cache.newPacket packet iface)
      .ok (h', req)
  | none => do
      let h' ← (h.calloc ip).addPacket h.sr.cache.reqSeq (h.sr.cache.newPacket packet iface)
      .ok (h', h.sr.cache.reqSeq)

/-- Source: `sr_arpcache.c`, `sr_arpcache_insert` -/
def insert (h : NodeInstance) (mac : EtherAddr) (ip : UInt32) (now : ℤ) :
    Except WalkStop (NodeInstance × Option ℕ) := do
  let (reqs, requests, req) ← walk (Linked.unlinkFirst (fun node => node.ip = ip) h.reqs h.requests
    h.sr.cache.reqSeq none h.requests)
  .ok ({ h with
    sr := { h.sr with cache := (srArpcacheInsert h.sr.cache mac ip now).1 }
    requests := requests
    reqs := reqs }, req)

/-- A packet is queued on the nodes; what does not touch the queue is as it was.
Source: `sr_router.c`, `handle_ip_packet` -/
def handleIpPacket (h : NodeInstance) (env : Env) (packet : List UInt8) (interface : IfaceName) :
    Except WalkStop (NodeInstance × List Effect) := do
  match ← (ipPacketVerdict h.sr packet).mapError .fault with
  | .queue packet rt => do
      let (h₁, req) ← h.queuereq rt.gw packet rt.interface
      let (h₂, out) ← h₁.handleArpreq env req
      .ok (h₂, .enqueue rt.gw (h.sr.cache.newPacket packet rt.interface) :: out)
  | _ => do
      let (_, out) ← (SimpleRouter.handleIpPacket h.sr env packet interface).mapError .fault
      .ok (h, out)

/-- A reply takes a request off the queue, sends its packets and frees it; what does not touch the
queue is as it was.
Source: `sr_router.c`, `handle_arp_packet` -/
def handleArpPacket (h : NodeInstance) (env : Env) (packet : List UInt8) (interface : IfaceName) :
    Except WalkStop (NodeInstance × List Effect) := do
  if arOp packet env.after = 2 then do
    let (h₁, req) ← h.insert (arSha packet env.after) (arSip packet env.after) env.now
    match req with
    | none => .ok (h₁, [])
    | some req => do
        let cell ← read h₁.reqs req
        let packets ← walk (Linked.contents h₁.pkts h₁.sr.cache.pktSeq cell.val.packets)
        let out ← (packets.mapM (flushPacket (srGetInterface h.sr interface)
          (arSha packet env.after) (cell.val.request packets))).mapError .fault
        let h₂ ← h₁.arpreqDestroy req
        .ok (h₂, out)
  else do
    let (_, out) ← (SimpleRouter.handleArpPacket h.sr env packet interface).mapError .fault
    .ok (h, out)

/-- Source: `sr_router.c`, `sr_handlepacket` -/
def handlepacket (h : NodeInstance) (env : Env) (packet : List UInt8) (interface : IfaceName) :
    Except WalkStop (NodeInstance × List Effect) :=
  if ethertype packet env.after = 0x0800 then h.handleIpPacket env packet interface
  else if ethertype packet env.after = 0x0806 then h.handleArpPacket env packet interface
  else .ok (h, [])

end NodeInstance

/-- One step of the router over nodes. -/
def nodeStep (h : NodeInstance) (i : Input) : Except WalkStop (NodeInstance × List Effect) :=
  match i.event with
  | .packet buf interface => h.handlepacket i.env buf interface
  | .arpreq req => h.handleArpreq i.env req
  | .timer => h.arpcacheTimeout i.env

/-- The instance after initialisation: no node is allocated. -/
def nodeInit (ifList : List SrIf) (routingTable : List SrRt) : NodeInstance :=
  ⟨srInit ifList routingTable, none, fun _ => none, fun _ => none⟩

/-! ### What the memory holds -/

/-- The instance with the queue `reqs`. -/
def SrInstance.withQueue (sr : SrInstance) (reqs : List SrArpreq) : SrInstance :=
  { sr with cache.requests := reqs }

namespace NodeInstance

/-- The nodes that are allocated are the requests `reqs` and their packets, the packets of each
linked. -/
structure Owned (h : NodeInstance) (reqs : List SrArpreq) : Prop where
  /-- The requests are different nodes. -/
  id_nodup : (reqs.map SrArpreq.id).Nodup
  /-- The next request is at a new address. -/
  id_lt : ∀ req ∈ reqs, req.id < h.sr.cache.reqSeq
  /-- The packets are different nodes. -/
  pkt_nodup : ((reqs.flatMap SrArpreq.packets).map SrPacket.id).Nodup
  /-- The next packet is at a new address. -/
  pkt_lt : ∀ pkt ∈ reqs.flatMap SrArpreq.packets, pkt.id < h.sr.cache.pktSeq
  /-- The requests are allocated, and no others. -/
  reqs_owns : Linked.Owns ReqNode.id h.reqs (reqs.map SrArpreq.node)
  /-- The packets are allocated, and no others. -/
  pkts_owns : Linked.Owns SrPacket.id h.pkts (reqs.flatMap SrArpreq.packets)
  /-- The packets of a request are linked in order. -/
  pkts_seg : ∀ req ∈ reqs, Linked.Seg SrPacket.id h.pkts req.node.packets req.packets none

/-- **The memory holds the queue `reqs`**, and nothing else. -/
structure Holds (h : NodeInstance) (reqs : List SrArpreq) : Prop extends Owned h reqs where
  /-- The requests are linked in order. -/
  reqs_seg : Linked.Seg ReqNode.id h.reqs h.requests (reqs.map SrArpreq.node) none

variable {h h' : NodeInstance} {env : Env} {reqs queue : List SrArpreq} {req : SrArpreq}
  {pkt : SrPacket} {cell : Linked.Cell ReqNode} {next : Option ℕ}

/-- The node of a request and its packets are the request. -/
@[simp] theorem node_request (req : SrArpreq) : req.node.request req.packets = req := rfl

/-- A node has the id of its request. -/
theorem map_node_id (reqs : List SrArpreq) :
    (reqs.map SrArpreq.node).map ReqNode.id = reqs.map SrArpreq.id := by
  rw [List.map_map]
  rfl

/-- Erasing a request erases its node. -/
theorem erase_node (id : ℕ) (reqs : List SrArpreq) :
    Keyed.erase ReqNode.id id (reqs.map SrArpreq.node) =
      (Keyed.erase SrArpreq.id id reqs).map SrArpreq.node :=
  Keyed.erase_map fun _ => rfl

/-- Reading a node that is allocated. -/
theorem read_eq {ν : Type} {nodes : Linked.Store ν} {a : ℕ} {c : Linked.Cell ν}
    (h : nodes a = some c) : read nodes a = .ok c := by
  rw [read, h]

/-- Reading one that is not is a fault. -/
theorem read_none {ν : Type} {nodes : Linked.Store ν} {a : ℕ} (h : nodes a = none) :
    read nodes a = .error (.fault .useAfterFree) := by
  rw [read, h]

namespace Owned

/-- The nodes of the queue are distinct. -/
theorem node_nodup (hO : h.Owned reqs) : ((reqs.map SrArpreq.node).map ReqNode.id).Nodup := by
  rw [map_node_id]
  exact hO.id_nodup

/-- There are no more requests than have been made. -/
theorem length_le (hO : h.Owned reqs) : reqs.length ≤ h.sr.cache.reqSeq :=
  Linked.length_le hO.id_nodup hO.id_lt

/-- A request is at its address. -/
theorem cell_of_mem (hO : h.Owned reqs) (hreq : req ∈ reqs) :
    ∃ next, h.reqs req.id = some ⟨req.node, next⟩ := by
  have hval : Linked.val h.reqs req.id = some req.node :=
    hO.reqs_owns.val_of_mem (v := req.node) (List.mem_map_of_mem hreq)
  rw [Linked.val, Option.map_eq_some_iff] at hval
  obtain ⟨⟨_, next⟩, hcell, rfl⟩ := hval
  exact ⟨next, hcell⟩

/-- The packets of one request. -/
theorem packets_nodup (hO : h.Owned reqs) (hreq : req ∈ reqs) :
    (req.packets.map SrPacket.id).Nodup := by
  obtain ⟨l₁, l₂, rfl⟩ := List.append_of_mem hreq
  refine hO.pkt_nodup.sublist (List.Sublist.map _ ?_)
  rw [List.flatMap_append, List.flatMap_cons]
  exact (List.sublist_append_left _ _).trans (List.sublist_append_right _ _)

/-- There are no more packets than have been made. -/
theorem packets_length_le (hO : h.Owned reqs) (hreq : req ∈ reqs) :
    req.packets.length ≤ h.sr.cache.pktSeq :=
  Linked.length_le (hO.packets_nodup hreq)
    fun pkt hpkt => hO.pkt_lt pkt (List.mem_flatMap.mpr ⟨req, hreq, hpkt⟩)

/-- The packets of a request are read off its node. -/
theorem contents (hO : h.Owned reqs) (hreq : req ∈ reqs) :
    Linked.contents h.pkts h.sr.cache.pktSeq req.node.packets = some req.packets :=
  Linked.contents_spec (hO.pkts_seg req hreq) (hO.packets_length_le hreq)

/-- The first packet is at the address the node has. -/
theorem head_cell (hO : h.Owned reqs) (hreq : req ∈ reqs) (hpkt : req.packets.head? = some pkt) :
    ∃ next, h.pkts pkt.id = some ⟨pkt, next⟩ := by
  exact (hO.pkts_seg req hreq).cell_of_mem (List.mem_of_head? hpkt)

/-- A request and its packets are freed, the request having been on the queue or not. -/
theorem arpreqDestroy (hO : h.Owned reqs) (hreq : req ∈ reqs) (hsub : queue.Sublist reqs)
    (hseg : Linked.Seg ReqNode.id h.reqs h.requests (queue.map SrArpreq.node) none)
    (herase : Keyed.erase SrArpreq.id req.id queue = Keyed.erase SrArpreq.id req.id reqs) :
    ∃ h', h.arpreqDestroy req.id = .ok h' ∧ h'.sr = h.sr ∧ h'.reqs req.id = none ∧
      h'.Holds (Keyed.erase SrArpreq.id req.id reqs) := by
  have hnd : ((queue.map SrArpreq.node).map ReqNode.id).Nodup := by
    rw [map_node_id]
    exact hO.id_nodup.sublist (hsub.map _)
  have hlen : (queue.map SrArpreq.node).length ≤ h.sr.cache.reqSeq := by
    rw [List.length_map]
    exact hsub.length_le.trans hO.length_le
  obtain ⟨nodes, requests, hunlink, hseg'⟩ := Linked.unlink_spec req.id hseg hnd hlen
  have hval := Linked.val_unlink hunlink
  -- the node is still there to be read
  have hreqval : Linked.val nodes req.id = some req.node := by
    rw [hval]
    exact hO.reqs_owns.val_of_mem (v := req.node) (List.mem_map_of_mem hreq)
  obtain ⟨cell, hcell, hcellval⟩ := Option.map_eq_some_iff.mp hreqval
  obtain ⟨pkts, hfree, hpkts⟩ := Linked.freeAll_spec (hO.pkts_seg req hreq)
    (hO.packets_nodup hreq) (hO.packets_length_le hreq)
  have hfind : Keyed.find SrArpreq.id req.id reqs = some req :=
    (Keyed.find_eq_some_iff hO.id_nodup).mpr ⟨hreq, rfl⟩
  have hperm := Keyed.flatMap_erase_perm SrArpreq.packets hfind
  have hpktnd : ((req.packets ++ (Keyed.erase SrArpreq.id req.id reqs).flatMap
      SrArpreq.packets).map SrPacket.id).Nodup := (hperm.map _).nodup_iff.mp hO.pkt_nodup
  refine ⟨{ h with
    requests := requests, reqs := Function.update nodes req.id none, pkts := pkts }, ?_, rfl,
    Function.update_self .., ?_⟩
  · unfold NodeInstance.arpreqDestroy
    rw [hunlink]
    simp only [walk, bind, Except.bind, read_eq hcell, hcellval, hfree]
  · constructor
    constructor
    case id_nodup => exact Keyed.map_erase_nodup hO.id_nodup
    case id_lt => exact fun r hr => hO.id_lt r (Keyed.mem_of_mem_erase hr)
    case pkt_nodup => exact hpktnd.sublist (List.Sublist.map _ (List.sublist_append_right _ _))
    case pkt_lt =>
      intro pkt hpkt
      exact hO.pkt_lt pkt (hperm.mem_iff.mpr (List.mem_append_right _ hpkt))
    case reqs_owns =>
      rw [← erase_node]
      exact (hO.reqs_owns.congr hval).free hO.node_nodup req.id
    case pkts_owns =>
      exact (hO.pkts_owns.mem_congr fun pkt => hperm.mem_iff.symm).freeSome hpktnd hpkts
    case pkts_seg =>
      intro r hr
      -- the packets of another request are other nodes
      refine (hO.pkts_seg r (Keyed.mem_of_mem_erase hr)).congr fun pkt hpkt => ?_
      refine (hpkts pkt.id).trans (if_neg ?_)
      rw [List.map_append, List.nodup_append] at hpktnd
      intro hmem
      exact hpktnd.2.2 _ hmem _
        (List.mem_map_of_mem (List.mem_flatMap.mpr ⟨r, hr, hpkt⟩)) rfl
    case reqs_seg =>
      rw [← herase, ← erase_node]
      exact hseg'.update_of_ne (fun node hnode => ((Keyed.mem_erase_iff hnd).mp hnode).2) none

end Owned

/-! ### What the functions do to it -/

/-- Changing what is not the queue. -/
theorem Holds.withSr (hh : h.Holds reqs) (sr : SrInstance)
    (hreqSeq : h.sr.cache.reqSeq ≤ sr.cache.reqSeq)
    (hpktSeq : h.sr.cache.pktSeq ≤ sr.cache.pktSeq) :
    { h with sr := sr : NodeInstance }.Holds reqs where
  id_nodup := hh.id_nodup
  id_lt := fun req hreq => (hh.id_lt req hreq).trans_le hreqSeq
  pkt_nodup := hh.pkt_nodup
  pkt_lt := fun pkt hpkt => (hh.pkt_lt pkt hpkt).trans_le hpktSeq
  reqs_owns := hh.reqs_owns
  pkts_owns := hh.pkts_owns
  pkts_seg := hh.pkts_seg
  reqs_seg := hh.reqs_seg

/-- The node of a request is changed, and the request with it. -/
theorem Holds.modify_reqs {f : SrArpreq → SrArpreq} {g : ReqNode → ReqNode} {id : ℕ}
    (hh : h.Holds reqs) (hg : ∀ node, (g node).id = node.id) (hfg : ∀ r, (f r).node = g r.node)
    (hcell : h.reqs id = some cell) :
    ((Keyed.modify SrArpreq.id id f reqs).map SrArpreq.id).Nodup ∧
      (∀ r ∈ Keyed.modify SrArpreq.id id f reqs, r.id < h.sr.cache.reqSeq) ∧
      Linked.Owns ReqNode.id (h.write id { cell with val := g cell.val }).reqs
        ((Keyed.modify SrArpreq.id id f reqs).map SrArpreq.node) ∧
      Linked.Seg ReqNode.id (h.write id { cell with val := g cell.val }).reqs h.requests
        ((Keyed.modify SrArpreq.id id f reqs).map SrArpreq.node) none := by
  have hids : (Keyed.modify SrArpreq.id id f reqs).map SrArpreq.id = reqs.map SrArpreq.id :=
    Keyed.map_modify fun r => (congrArg ReqNode.id (hfg r)).trans (hg r.node)
  have hnodes : Keyed.modify ReqNode.id id g (reqs.map SrArpreq.node) =
      (Keyed.modify SrArpreq.id id f reqs).map SrArpreq.node := Keyed.modify_map (fun _ => rfl) hfg
  rw [hids, ← hnodes]
  refine ⟨hh.id_nodup, fun r hr => ?_, hh.reqs_owns.modify hh.node_nodup hg hcell,
    hh.reqs_seg.modify hh.node_nodup hg hcell⟩
  obtain ⟨r₀, hr₀, heq⟩ := List.mem_map.mp (hids ▸ List.mem_map_of_mem hr)
  exact heq ▸ hh.id_lt r₀ hr₀

/-- A request has been sent. -/
theorem Holds.resend {id : ℕ} (hh : h.Holds reqs) (hcell : h.reqs id = some cell) (now : ℤ) :
    (h.write id { cell with val := cell.val.resend now }).Holds
      (Keyed.modify SrArpreq.id id (SrArpreq.resend now) reqs) := by
  obtain ⟨hnd, hlt, howns, hseg⟩ := hh.modify_reqs (f := SrArpreq.resend now)
    (g := ReqNode.resend now) (fun _ => rfl) (fun _ => rfl) hcell
  have hpkts : (Keyed.modify SrArpreq.id id (SrArpreq.resend now) reqs).flatMap SrArpreq.packets =
      reqs.flatMap SrArpreq.packets := by
    rw [List.flatMap_def, List.flatMap_def,
      Keyed.map_modify (f := SrArpreq.resend now) fun _ => rfl]
  refine ⟨⟨hnd, hlt, ?_, ?_, howns, ?_, ?_⟩, hseg⟩
  case refine_1 =>
    rw [hpkts]
    exact hh.pkt_nodup
  case refine_2 =>
    rw [hpkts]
    exact hh.pkt_lt
  case refine_3 =>
    rw [hpkts]
    exact hh.pkts_owns
  case refine_4 =>
    intro r hr
    obtain ⟨r₀, hr₀, rfl⟩ := List.mem_map.mp hr
    split_ifs <;> exact hh.pkts_seg r₀ hr₀

/-- A new request. -/
theorem Holds.calloc (hh : h.Holds reqs) (ip : UInt32) :
    (h.calloc ip).Holds (⟨h.sr.cache.reqSeq, ip, 0, 0, []⟩ :: reqs) := by
  have hne : ∀ req ∈ reqs, req.id ≠ h.sr.cache.reqSeq := fun req hreq => (hh.id_lt req hreq).ne
  have hnode : ∀ node ∈ reqs.map SrArpreq.node, node.id ≠ h.sr.cache.reqSeq := by
    intro node hmem
    obtain ⟨req, hreq, rfl⟩ := List.mem_map.mp hmem
    exact hne req hreq
  constructor
  constructor
  case id_nodup => exact Keyed.nodup_map_cons.mpr ⟨hne, hh.id_nodup⟩
  case id_lt =>
    intro req hreq
    rcases List.mem_cons.mp hreq with rfl | hreq
    · exact Nat.lt_succ_self _
    · exact (hh.id_lt req hreq).trans (Nat.lt_succ_self _)
  case pkt_nodup => exact hh.pkt_nodup
  case pkt_lt => exact hh.pkt_lt
  case reqs_owns => exact hh.reqs_owns.alloc (v := ⟨h.sr.cache.reqSeq, ip, 0, 0, none⟩) hnode _
  case pkts_owns => exact hh.pkts_owns
  case pkts_seg =>
    intro req hreq
    rcases List.mem_cons.mp hreq with rfl | hreq
    · rfl
    · exact hh.pkts_seg req hreq
  case reqs_seg =>
    exact ⟨rfl, h.requests, Function.update_self .., hh.reqs_seg.update_of_ne hnode _⟩

/-- A packet on a request. -/
theorem Holds.addPacket (hh : h.Holds reqs) (hreq : req ∈ reqs) (pkt : SrPacket)
    (hpkt : pkt.id = h.sr.cache.pktSeq) :
    ∃ h', h.addPacket req.id pkt = .ok h' ∧
      h'.sr = { h.sr with cache := { h.sr.cache with pktSeq := h.sr.cache.pktSeq + 1 } } ∧
      h'.Holds (Keyed.modify SrArpreq.id req.id (SrArpreq.addPacket pkt) reqs) := by
  have hseq : h.sr.cache.pktSeq ≤ h.sr.cache.pktSeq + 1 := Nat.le_succ _
  unfold NodeInstance.addPacket
  by_cases hlen : pkt.buf.length ≠ 0
  case neg =>
    rw [if_neg hlen]
    refine ⟨_, rfl, rfl, ?_⟩
    have hself : Keyed.modify SrArpreq.id req.id (SrArpreq.addPacket pkt) reqs = reqs := by
      have hid : SrArpreq.addPacket pkt = id := funext fun r => if_neg hlen
      rw [hid, Keyed.modify]
      simp
    rw [hself]
    exact hh.withSr _ le_rfl hseq
  obtain ⟨next, hcell⟩ := hh.cell_of_mem hreq
  have hpush : SrArpreq.addPacket pkt = SrArpreq.push pkt := funext fun r => if_pos hlen
  rw [if_pos hlen, read_eq hcell, hpush]
  refine ⟨_, rfl, rfl, ?_⟩
  obtain ⟨hnd, hlt, howns, hseg⟩ := hh.modify_reqs (f := SrArpreq.push pkt)
    (g := fun node => { node with packets := some pkt.id }) (fun _ => rfl) (fun _ => rfl) hcell
  have hfind : Keyed.find SrArpreq.id req.id reqs = some req :=
    (Keyed.find_eq_some_iff hh.id_nodup).mpr ⟨hreq, rfl⟩
  have hperm : ((Keyed.modify SrArpreq.id req.id (SrArpreq.push pkt) reqs).flatMap
      SrArpreq.packets).Perm (pkt :: reqs.flatMap SrArpreq.packets) :=
    Keyed.flatMap_modify_perm [pkt] hh.id_nodup hfind rfl
  have hne : ∀ other ∈ reqs.flatMap SrArpreq.packets, other.id ≠ pkt.id :=
    fun other hother => hpkt ▸ (hh.pkt_lt other hother).ne
  refine ⟨⟨hnd, hlt, ?_, ?_, howns, ?_, ?_⟩, hseg⟩
  case refine_1 =>
    rw [(hperm.map SrPacket.id).nodup_iff]
    exact Keyed.nodup_map_cons.mpr ⟨hne, hh.pkt_nodup⟩
  case refine_2 =>
    intro other hother
    rcases List.mem_cons.mp (hperm.mem_iff.mp hother) with rfl | hother
    · exact hpkt ▸ Nat.lt_succ_self _
    · exact (hh.pkt_lt other hother).trans_le hseq
  case refine_3 =>
    exact (hh.pkts_owns.alloc hne req.node.packets).mem_congr fun other => hperm.mem_iff
  case refine_4 =>
    intro r hr
    have hlink : ∀ r ∈ reqs, Linked.Seg SrPacket.id
        (Function.update h.pkts pkt.id (some ⟨pkt, req.node.packets⟩)) r.node.packets r.packets
          none :=
      fun r hr => (hh.pkts_seg r hr).update_of_ne
        (fun other hother => hne other (List.mem_flatMap.mpr ⟨r, hr, hother⟩)) _
    rcases (Keyed.mem_modify_iff hh.id_nodup hfind).mp hr with rfl | ⟨hr, -⟩
    · exact ⟨rfl, req.node.packets, Function.update_self .., hlink req hreq⟩
    · exact hlink r hr

/-- **`sr_arpcache_queuereq` on the nodes is `sr_arpcache_queuereq` on the queue.** -/
theorem Holds.queuereq (hh : h.Holds reqs) (ip : UInt32) (packet : List UInt8)
    (iface : IfaceName) :
    ∃ h' reqs' req, h.queuereq ip packet iface = .ok (h', req.id) ∧ h'.Holds reqs' ∧
      req ∈ reqs' ∧ (srArpcacheQueuereq (h.sr.withQueue reqs).cache ip packet iface).2 = req.id ∧
      { h.sr.withQueue reqs with
        cache := (srArpcacheQueuereq (h.sr.withQueue reqs).cache ip packet iface).1 } =
          h'.sr.withQueue reqs' := by
  have hsearch := Linked.search_spec (fun node : ReqNode => node.ip = ip) hh.reqs_seg
    ((List.length_map _).trans_le hh.length_le)
  rw [List.find?_map] at hsearch
  unfold NodeInstance.queuereq
  rw [hsearch]
  have hfind : reqs.find? ((fun node : ReqNode => decide (node.ip = ip)) ∘ SrArpreq.node) =
      Keyed.find SrArpreq.ip ip (h.sr.withQueue reqs).cache.requests := rfl
  rw [hfind]
  cases hreq : Keyed.find SrArpreq.ip ip (h.sr.withQueue reqs).cache.requests with
  | some req =>
      rw [queuereq_some hreq]
      have hmem : req ∈ reqs := Keyed.mem_of_find hreq
      obtain ⟨h', hadd, hsr, hh'⟩ := hh.addPacket hmem (h.sr.cache.newPacket packet iface) rfl
      have hmem' : req.addPacket (h.sr.cache.newPacket packet iface) ∈ Keyed.modify SrArpreq.id
          req.id (SrArpreq.addPacket (h.sr.cache.newPacket packet iface)) reqs := by
        have hfound := (Keyed.find_eq_some_iff hh.id_nodup).mpr ⟨hmem, rfl⟩
        exact (Keyed.mem_modify_iff hh.id_nodup hfound).mpr (.inl rfl)
      have hid := (addPacket_fields (h.sr.cache.newPacket packet iface) req).1
      refine ⟨h', _, _, ?_, hh', hmem', hid.symm, ?_⟩
      · rw [hid]
        simp only [walk, bind, Except.bind, Option.map_some, SrArpreq.node, hadd]
      · rw [hsr]
        rfl
  | none =>
      rw [queuereq_none hreq]
      obtain ⟨h', hadd, hsr, hh'⟩ := (hh.calloc ip).addPacket List.mem_cons_self
        (h.sr.cache.newPacket packet iface) rfl
      have hnew : Keyed.modify SrArpreq.id h.sr.cache.reqSeq
          (SrArpreq.addPacket (h.sr.cache.newPacket packet iface))
          (⟨h.sr.cache.reqSeq, ip, 0, 0, []⟩ :: reqs) =
          SrArpreq.addPacket (h.sr.cache.newPacket packet iface)
            ⟨h.sr.cache.reqSeq, ip, 0, 0, []⟩ :: reqs := by
        have htail : Keyed.modify SrArpreq.id h.sr.cache.reqSeq
            (SrArpreq.addPacket (h.sr.cache.newPacket packet iface)) reqs = reqs :=
          Keyed.modify_eq_self fun r hr => (hh.id_lt r hr).ne
        rw [Keyed.modify, List.map_cons, if_pos rfl]
        exact congrArg _ htail
      rw [hnew] at hh'
      have hid := (addPacket_fields (h.sr.cache.newPacket packet iface)
        ⟨h.sr.cache.reqSeq, ip, 0, 0, []⟩).1
      refine ⟨h', _, _, ?_, hh', List.mem_cons_self, hid.symm, ?_⟩
      · rw [hid]
        simp only [walk, bind, Except.bind, Option.map_none, hadd]
      · rw [hsr]
        rfl

/-- The request for an address is unlinked; all nodes are still there. -/
theorem Holds.insert (hh : h.Holds reqs) (mac : EtherAddr) (ip : UInt32) (now : ℤ) :
    ∃ h', h.insert mac ip now = .ok (h', (Keyed.find SrArpreq.ip ip reqs).map SrArpreq.id) ∧
      h'.sr = { h.sr with cache := (srArpcacheInsert h.sr.cache mac ip now).1 } ∧
      h'.Owned reqs ∧ Linked.Seg ReqNode.id h'.reqs h'.requests
        ((Keyed.erase SrArpreq.ip ip reqs).map SrArpreq.node) none := by
  obtain ⟨nodes, requests, hunlink, hseg, hval⟩ := Linked.unlinkFirst_spec
    (fun node : ReqNode => node.ip = ip) hh.reqs_seg hh.node_nodup
    ((List.length_map _).trans_le hh.length_le)
  rw [List.find?_map] at hunlink
  rw [List.eraseP_map] at hseg
  unfold NodeInstance.insert
  rw [hunlink, Option.map_map]
  refine ⟨_, rfl, rfl, ?_, hseg⟩
  exact ⟨hh.id_nodup, hh.id_lt, hh.pkt_nodup, hh.pkt_lt, hh.reqs_owns.congr hval, hh.pkts_owns,
    hh.pkts_seg⟩

end NodeInstance

end SimpleRouter
