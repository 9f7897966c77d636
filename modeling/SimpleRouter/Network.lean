import SimpleRouter.ArpExchange
import SimpleRouter.Egress
import SimpleRouter.Lib.Medium

/-!
# A network of routers

Any number of routers, each running the program with interfaces and routes of its own, and hosts of
which nothing is known but what they put on the wire. Frames travel on LANs, which may lose, repeat
and reorder them (`Machine.Medium`); the routers and their timers take steps in any order.

* `Network.coherent` — **ARP tables are coherent**: if each interface has its address to itself and
  hosts do not lie about theirs, then whatever a router has in its table is true, and a transit
  frame goes to the hardware address of the gateway of its route.
* `Hops k p q` — `q` is what `k` routers have made of `p`; `Hops.ttl`, `Hops.getElem?` — the TTL
  has gone down by `k`, and nothing else has changed.
* `Network.travels` — **no frame goes round for ever**: whatever the routing tables, every frame on
  a LAN is at most 255 routers away from where it comes from, and is the datagram sent there.
-/

namespace SimpleRouter

open Buffer Machine OnesComplement

/-! ### The network -/

/-- The interfaces and routes of each router, and the LAN each interface is on. -/
structure Network (ρ L : Type) where
  /-- The interfaces of a router. -/
  ifList : ρ → List SrIf
  /-- Its routes. -/
  routingTable : ρ → List SrRt
  /-- Where an interface is plugged in. -/
  lan : ρ → IfaceName → L

namespace Network

variable {ρ L : Type} (N : Network ρ L)

/-- A router at the start. -/
def init (r : ρ) : SrInstance := srInit (N.ifList r) (N.routingTable r)

/-- Frames on a LAN. A router takes any frame of the LANs it is on, whatever its destination
address; what it hands to `sr_send_packet` gets there if it passes the address check.
Source: `sr_vns_comm.c`, `sr_send_packet` -/
def medium : Medium ρ Input Effect (L × List UInt8) where
  takes r i :=
    match i.event with
    | .packet buf interface => some (N.lan r interface, buf)
    | _ => none
  puts r e :=
    match e with
    | .send _ buf iface =>
        if srEtherAddrsMatchInterface (N.init r) buf iface then some (N.lan r iface, buf) else none
    | _ => none

/-- Nothing has been sent. -/
def start : Medium.State ρ SrInstance (L × List UInt8) := ⟨N.init, []⟩

variable [DecidableEq ρ] [DecidableEq L]

/-- The history of the network so far leads to a state. -/
def Reaches (tr : Medium.Trace ρ Input Effect (L × List UInt8))
    (s : Medium.State ρ SrInstance (L × List UInt8)) : Prop :=
  Run (N.medium.whole step) N.start tr s

variable {N} {tr : Medium.Trace ρ Input Effect (L × List UInt8)}
  {s : Medium.State ρ SrInstance (L × List UInt8)}

/-- Each router has made a run of its own. -/
theorem Reaches.node (h : N.Reaches tr s) (r : ρ) :
    Run step (srInit (N.ifList r) (N.routingTable r)) (Medium.seenBy r tr) (s.node r) :=
  Medium.node_run h r

omit [DecidableEq ρ] [DecidableEq L] in
/-- What is on the wire of a router's is a frame it has sent. -/
theorem puts_eq_some {r : ρ} {e : Effect} {l : L} {p : List UInt8}
    (h : N.medium.puts r e = some (l, p)) : ∃ caller name, e = .send caller p name := by
  simp only [medium] at h
  split at h
  · split_ifs at h
    obtain ⟨-, rfl⟩ := Prod.mk.inj (Option.some.inj h)
    exact ⟨_, _, rfl⟩
  · cases h

end Network

/-! ### ARP tables -/

/-- The frame does not read as a false ARP reply, whatever memory holds behind it. -/
def Truthful (binds : UInt32 → EtherAddr → Prop) (p : List UInt8) : Prop :=
  ∀ after, ethertype p after = 0x0806 → arOp p after = 2 → binds (arSip p after) (arSha p after)

section truthful

variable {binds : UInt32 → EtherAddr → Prop} {p : List UInt8} {iface : SrIf}

/-- A frame of another Ethernet type. -/
theorem truthful_of_ip (hlen : 14 ≤ p.length) (h : slice p 12 2 = u16Bytes (htons 0x0800)) :
    Truthful binds p := by
  intro after htype
  rw [ethertype_eq hlen, h, u16_u16Bytes, htons_htons] at htype
  exact absurd htype (by decide)

/-- An ICMP answer is an IP frame. -/
theorem slice_ethertype_icmpResponseFrame {ip : UInt32} {packet : List UInt8}
    {after : ℕ → UInt8} {type code : UInt8} (h : 34 ≤ packet.length) :
    slice (icmpResponseFrame iface ip packet after type code) 12 2 = u16Bytes (htons 0x0800) := by
  have hicmp := le_length_icmp h after type code
  unfold icmpResponseFrame
  exact slice_put_same (length_u16Bytes _)
    (by simp only [length_put, length_putCksum]; omega)

/-- So is an ICMP error. -/
theorem slice_ethertype_icmpT3Frame {packet : List UInt8} {after : ℕ → UInt8}
    {type code : UInt8} :
    slice (icmpT3Frame iface packet after type code) 12 2 = u16Bytes (htons 0x0800) := by
  unfold icmpT3Frame putIcmpT3
  simp (disch := simp) only [slice_put_of_disjoint, slice_putCksum_of_disjoint, slice_put_same]

/-- A transit frame is of the type it was received with. -/
theorem slice_ethertype_transit {buf : List UInt8} {shost dhost : EtherAddr} {after : ℕ → UInt8}
    (hlen : 34 ≤ buf.length) (htype : ethertype buf after = 0x0800) :
    slice (rewriteEther (transitCopy buf) shost dhost) 12 2 = u16Bytes (htons 0x0800) := by
  rw [slice_rewriteEther (by omega), slice_transitCopy (by omega)]
  rw [ethertype_eq (by omega)] at htype
  obtain ⟨a, b, hab⟩ : ∃ a b, slice buf 12 2 = [a, b] := by
    match hs : slice buf 12 2, (show (slice buf 12 2).length = 2 by rw [length_slice]; omega) with
    | [a, b], _ => exact ⟨a, b, rfl⟩
  rw [hab] at htype ⊢
  rw [← u16_eq_iff, ← htype, htons_htons]

/-- A received interface is one of the list. -/
theorem mem_ifList_of_getInterface {sr : SrInstance} {name : IfaceName}
    (h : srGetInterface sr name = some iface) : iface ∈ sr.ifList := List.mem_of_find?_eq_some h

variable {ifList : List SrIf} {routingTable : List SrRt} {tr : History} {sr : SrInstance}

/-- A packet is the copy of a frame the router has received, one that it forwards. -/
def CopyOf (tr : History) (p : List UInt8) : Prop :=
  ∃ i ∈ tr.map Prod.fst, ∃ buf interface, i.event = .packet buf interface ∧
    ethertype buf i.env.after = 0x0800 ∧ 34 ≤ buf.length ∧ HeaderOk buf ∧ ipTtl buf - 1 ≠ 0 ∧
    p = transitCopy buf

/-- Packets that wait, and transit frames that have been sent, are copies of frames received. -/
structure CopyInv (tr : History) (sr : SrInstance) : Prop where
  /-- The cache invariant. -/
  cache : CacheInv sr.cache
  /-- Packets that wait. -/
  waiting : ∀ x ∈ waiting sr.cache, CopyOf tr x.2.buf
  /-- Frames sent. -/
  sent : ∀ caller p name, .send caller p name ∈ outputs tr → caller.IsTransit →
    ∃ q shost dhost, CopyOf tr q ∧ p = rewriteEther q shost dhost

/-- An action keeps it. -/
theorem CopyInv.action {i : Input} {out o : List Effect} {sr' : SrInstance}
    (hC : CopyInv (tr ++ [(i, out)]) sr) (h : Action i sr o sr') :
    CopyInv (tr ++ [(i, out ++ o)]) sr' := by
  have hinputs : (tr ++ [(i, out ++ o)]).map Prod.fst = (tr ++ [(i, out)]).map Prod.fst := by
    simp
  have hnow : i ∈ (tr ++ [(i, out ++ o)]).map Prod.fst := by simp
  have hkeep {p : List UInt8} (hp : CopyOf (tr ++ [(i, out)]) p) :
      CopyOf (tr ++ [(i, out ++ o)]) p := by
    rw [CopyOf, hinputs]
    exact hp
  have hsplit : outputs (tr ++ [(i, out ++ o)]) = outputs (tr ++ [(i, out)]) ++ o := by
    simp
  constructor
  case cache => exact hC.cache.action h
  case waiting =>
    rintro ⟨ip, pkt⟩ hx
    rcases h.mem_waiting hC.cache hx with hx | hx
    · exact hkeep (hC.waiting _ hx)
    · obtain ⟨buf, interface, rt, hevent, htype, ht, httl, -, -, hbuf, -⟩ :=
        h.origin (mem_enqueued_iff.mp hx)
      exact ⟨i, hnow, buf, interface, hevent, htype, ht.1, ht.2.1, httl, hbuf⟩
  case sent =>
    intro caller p name he hcaller
    rw [hsplit] at he
    rcases List.mem_append.mp he with he | he
    · obtain ⟨q, shost, dhost, hq, hp⟩ := hC.sent caller p name he hcaller
      exact ⟨q, shost, dhost, hkeep hq, hp⟩
    · cases h.emits he with
      | respond | reply | transmit | giveUp => exact hcaller.elim
      | forward hevent htype hverdict _ =>
          obtain ⟨ht, httl, -, -, rfl⟩ := verdict_forward_iff.mp hverdict
          exact ⟨_, _, _, ⟨i, hnow, _, _, hevent, htype, ht.1, ht.2.1, httl, rfl⟩, rfl⟩
      | @flush _ _ req pkt _ _ hreq hpkt _ =>
          exact ⟨_, _, _, hkeep (hC.waiting (req.ip, pkt)
            (mem_waiting_iff.mpr ⟨req, hreq, rfl, hpkt⟩)), rfl⟩

/-- It holds in every run. -/
theorem copyInv_of_run (h : Run step (srInit ifList routingTable) tr sr) : CopyInv tr sr := by
  have hind : Inductive Action (srInit ifList routingTable) CopyInv := by
    constructor
    case init =>
      refine ⟨CacheInv.init, ?_, ?_⟩
      · rintro x ⟨⟩
      · rintro caller p name ⟨⟩
    case input =>
      intro tr sr i hC
      have hgrow {p : List UInt8} (hp : CopyOf tr p) : CopyOf (tr ++ [(i, [])]) p := by
        obtain ⟨j, hj, hrest⟩ := hp
        exact ⟨j, by simp [hj], hrest⟩
      have hsame : outputs (tr ++ [(i, [])]) = outputs tr := by simp
      refine ⟨hC.cache, fun x hx => hgrow (hC.waiting x hx), ?_⟩
      intro caller p name he hcaller
      obtain ⟨q, shost, dhost, hq, hp⟩ := hC.sent caller p name (hsame ▸ he) hcaller
      exact ⟨q, shost, dhost, hgrow hq, hp⟩
    case action =>
      intro tr i out sr o sr' hC h
      exact hC.action h
  exact hind.run step_refines h

/-- **A router does not lie**: whatever it has received, no frame it sends reads as a false ARP
reply. -/
theorem truthful_of_run (h : Run step (srInit ifList routingTable) tr sr)
    (hown : ∀ iface ∈ ifList, binds iface.ip iface.addr) {caller : Caller} {name : IfaceName}
    (hsend : .send caller p name ∈ outputs tr) : Truthful binds p := by
  by_cases hcaller : caller.IsTransit
  · obtain ⟨q, shost, dhost, ⟨i, -, buf, interface, -, htype, hlen, -, -, rfl⟩, rfl⟩ :=
      (copyInv_of_run h).sent caller p name hsend hcaller
    refine truthful_of_ip ?_ (slice_ethertype_transit hlen htype)
    simp only [rewriteEther, length_put, length_transitCopy]
    omega
  · obtain ⟨i, out, hi, he⟩ := mem_outputs.mp hsend
    refine runInv_inductive.output (Q := fun i e => ∀ caller p name, e = .send caller p name →
      ¬ caller.IsTransit → Truthful binds p) step_refines ?_ h hi he _ _ _ rfl hcaller
    rintro tr i out sr o sr' hI ha e he caller p name rfl hcaller
    cases ha.emits he with
    | forward | flush => exact absurd trivial hcaller
    | respond _ _ hverdict _ =>
        obtain ⟨hlen, hmin⟩ := length_of_respond hverdict
        refine truthful_of_ip ?_ (slice_ethertype_icmpResponseFrame (hlen ▸ hmin))
        rw [length_icmpResponseFrame]
        split_ifs <;> omega
    | @reply buf _ iface _ _ hlen hiface =>
        intro after _ _
        rw [arSip_arpReplyFrame after hlen, arSha_arpReplyFrame after hlen]
        exact hown iface (hI.ifList_eq ▸ mem_ifList_of_getInterface hiface)
    | transmit =>
        intro after _ hop
        rw [arOp_createArpRequest] at hop
        exact absurd hop (by decide)
    | giveUp => exact truthful_of_ip (by simp) slice_ethertype_icmpT3Frame

end truthful

namespace Network

variable {ρ L : Type} [DecidableEq ρ] [DecidableEq L] {N : Network ρ L}
  {tr : Medium.Trace ρ Input Effect (L × List UInt8)}
  {s : Medium.State ρ SrInstance (L × List UInt8)} {binds : UInt32 → EtherAddr → Prop}

/-- Frames on the wire do not read as false ARP replies, nor does what a router takes. -/
theorem truthful (h : N.Reaches tr s) (hown : ∀ r, ∀ iface ∈ N.ifList r, binds iface.ip iface.addr)
    (hhosts : ∀ l p, .inject (l, p) ∈ tr.map Prod.fst → Truthful binds p) :
    (∀ x ∈ s.air, Truthful binds x.2) ∧
      ∀ r, ∀ x ∈ Medium.seenBy r tr, ∀ m ∈ N.medium.takes r x.1, Truthful binds m.2 := by
  have hrun : Run (N.medium.whole step) N.start tr s := h
  have hair : ∀ m ∈ N.start.air, Truthful binds m.2 := fun m hm => absurd hm List.not_mem_nil
  refine Medium.good_of_run (G := fun m : L × List UInt8 => Truthful binds m.2) hrun
    (List.Subset.refl tr) hair (fun m hm => hhosts m.1 m.2 hm) ?_
  rintro r pre sr i sr' o hrun hstep - - e he ⟨l, p⟩ hput
  obtain ⟨caller, name, rfl⟩ := puts_eq_some hput
  have hsend : .send caller p name ∈ outputs (pre ++ [(i, o)]) :=
    mem_outputs.mpr ⟨i, o, List.mem_append_right _ (List.mem_singleton_self _), he⟩
  exact truthful_of_run (hrun.snoc hstep) (hown r) hsend

/-- What a router has learned is what it was told on the wire. -/
theorem binds_of_learned (h : N.Reaches tr s)
    (hown : ∀ r, ∀ iface ∈ N.ifList r, binds iface.ip iface.addr)
    (hhosts : ∀ l p, .inject (l, p) ∈ tr.map Prod.fst → Truthful binds p) {r : ρ} {ip : UInt32}
    {sha : EtherAddr} (hlearned : LearnedFrom (Medium.seenBy r tr) ip sha) : binds ip sha := by
  obtain ⟨i, out, interface, hi, buf, hevent, htype, hop, rfl, rfl⟩ := hlearned
  have htaken := (truthful h hown hhosts).2 r _ hi (N.lan r interface, buf)
  refine htaken ?_ i.env.after htype hop
  simp only [medium, hevent, Option.mem_def]

/-- **ARP tables are coherent.** In every reachable state of a network in which hosts do not put
false ARP replies on the wire, every valid entry of every router's table is true; and every transit
frame a router has ever sent left on the interface of the best route of its destination, for the
true hardware address of the gateway of that route. -/
theorem coherent (h : N.Reaches tr s) (hown : ∀ r, ∀ iface ∈ N.ifList r, binds iface.ip iface.addr)
    (hhosts : ∀ l p, .inject (l, p) ∈ tr.map Prod.fst → Truthful binds p) (r : ρ) :
    (∀ e ∈ (s.node r).cache.entries, e.valid → binds e.ip e.mac) ∧
      ∀ caller p name, .send caller p name ∈ outputs (Medium.seenBy r tr) → caller.IsTransit →
        ∃ rt sha, srLongestPrefixMatch (N.init r) (ipDst p) = some rt ∧ name = rt.interface ∧
          etherDhost p = sha.bytes ∧ binds rt.gw sha := by
  have hrun := h.node r
  refine ⟨fun e he hv => ?_, fun caller p name hsend hcaller => ?_⟩
  · exact binds_of_learned h hown hhosts ((nextHopInv_of_run hrun).learned e he hv)
  · obtain ⟨i, out, hi, he⟩ := mem_outputs.mp hsend
    obtain ⟨pre, post, hsplit⟩ := List.append_of_mem hi
    obtain ⟨rt, sha, hrt, hname, hdhost, hlearned⟩ := nextHop_of_run (hsplit ▸ hrun) hcaller he
    have hmono : LearnedFrom (Medium.seenBy r tr) rt.gw sha := hlearned.mono fun j o hj => by
      rw [hsplit, List.append_cons]
      exact ⟨o, List.mem_append_left _ hj⟩
    exact ⟨rt, sha, hrt, hname, hdhost, binds_of_learned h hown hhosts hmono⟩

end Network

/-- `twoPort`, and its next hop on the LAN of `eth2`. -/
def pairNet : Network Bool UInt8 where
  ifList r := bif r then nextHop.ifList else twoPort.ifList
  routingTable r := bif r then nextHop.routingTable else twoPort.routingTable
  lan r name := if r ∨ name = ethName 2 then 2 else 1

/-- `udpFrame 2 9 64` comes to `twoPort` on its first LAN; `twoPort` asks for its next hop, which
answers, and the packet is sent. -/
def pairEvents : List (Medium.Event Bool Input (UInt8 × List UInt8)) :=
  let request := createArpRequest (ethIf 2) (netAddr 2 2)
  let reply := arpReplyFrame ⟨ethName 1, mac 22, netAddr 2 2⟩ request
  [.inject (1, udpFrame 2 9 64), .act false firstArrival,
    .act true ⟨stillEnv 1, .packet request (ethName 1)⟩,
    .act false ⟨stillEnv 2, .packet reply (ethName 2)⟩]

/-- The hardware addresses of `pairNet`. -/
def pairBinds (ip : UInt32) (sha : EtherAddr) : Prop :=
  (ip, sha) ∈ [(netAddr 1 1, mac 1), (netAddr 2 1, mac 2), (netAddr 2 2, mac 22)]

/-- `twoPort` learns the address of its next hop from it, and sends it the packet. -/
theorem coherent_pairNet : ∃ tr s p, pairNet.Reaches tr s ∧
    (∃ e ∈ (s.node false).cache.entries, e.valid ∧ pairBinds e.ip e.mac) ∧
    .send (.flush firstReq firstPkt) p (ethName 2) ∈ outputs (Medium.seenBy false tr) ∧
    ∃ sha, etherDhost p = sha.bytes ∧ pairBinds (netAddr 2 2) sha := by
  obtain ⟨tr, s, hrun, hinputs, htest⟩ := exists_run (pairNet.medium.whole step) pairNet.start
    pairEvents (fun s tr => (s.node false).cache.entries.any SrArpentry.valid ∧
      .send (.flush firstReq firstPkt) (rewriteEther firstPkt.buf (mac 2) (mac 22)) (ethName 2) ∈
        outputs (Medium.seenBy false tr)) (by decide +kernel)
  obtain ⟨hvalid, hsend⟩ := of_decide_eq_true htest
  obtain ⟨e, he, hv⟩ := List.any_eq_true.mp hvalid
  have hown : ∀ r, ∀ iface ∈ pairNet.ifList r, pairBinds iface.ip iface.addr := by
    unfold pairBinds
    decide
  have hhosts : ∀ l p, .inject (l, p) ∈ tr.map Prod.fst → Truthful pairBinds p := by
    intro l p hp
    rw [hinputs] at hp
    obtain ⟨rfl, rfl⟩ : l = 1 ∧ p = udpFrame 2 9 64 := by simpa [pairEvents] using hp
    exact truthful_of_ip (by decide +kernel) (by decide +kernel)
  obtain ⟨hentries, hsent⟩ := Network.coherent hrun hown hhosts false
  obtain ⟨rt, sha, hrt, -, hdhost, hbinds⟩ := hsent _ _ _ hsend trivial
  refine ⟨tr, s, _, hrun, ⟨e, he, hv, hentries e he hv⟩, hsend, sha, hdhost, ?_⟩
  have hgw : (some rt).map SrRt.gw = some (netAddr 2 2) := by
    rw [← hrt]
    decide +kernel
  rw [← Option.some.inj hgw]
  exact hbinds

/-! ### The way of a frame -/

section hops

variable {p q : List UInt8} {k : ℕ}

/-- `q` is what `k` routers in a row have made of `p`. -/
inductive Hops (p : List UInt8) : ℕ → List UInt8 → Prop
  /-- The frame itself. -/
  | zero : Hops p 0 p
  /-- One more router accepts the frame, and forwards it. -/
  | succ {k : ℕ} {q : List UInt8} (shost dhost : EtherAddr) (hops : Hops p k q)
      (hlen : 34 ≤ q.length) (hcheck : HeaderOk q) (httl : ipTtl q - 1 ≠ 0) :
      Hops p (k + 1) (rewriteEther (transitCopy q) shost dhost)

/-- How often routers can take one from the TTL; they take it before they look, so a TTL of zero
counts for 256. -/
def lifetime (p : List UInt8) : ℕ := if ipTtl p = 0 then 256 else (ipTtl p).toNat

/-- Hops keep the length. -/
theorem Hops.length_eq (h : Hops p k q) : q.length = p.length := by
  induction h with
  | zero => rfl
  | succ shost dhost _ _ _ _ ih => rw [length_rewriteEther, length_transitCopy, ih]

/-- Nothing changes but the hardware addresses, the TTL and the header checksum. -/
theorem Hops.getElem? (h : Hops p k q) {i : ℕ} (hi : 12 ≤ i)
    (hfield : i ≠ 22 ∧ i ≠ 24 ∧ i ≠ 25) : q[i]? = p[i]? := by
  induction h with
  | zero => rfl
  | succ shost dhost _ _ _ _ ih => rw [getElem?_rewriteEther hi, getElem?_transitCopy hfield, ih]

/-- Every frame lives for at least one hop. -/
theorem one_le_lifetime : 1 ≤ lifetime p := by
  unfold lifetime
  split_ifs with hzero
  · decide
  · have := UInt8.toNat_inj.not.mpr hzero
    rw [UInt8.toNat_zero] at this
    omega

/-- No frame lives for longer than 256. -/
theorem lifetime_le : lifetime p ≤ 256 := by
  unfold lifetime
  split_ifs
  · exact le_rfl
  · exact (ipTtl p).toNat_lt.le

/-- What the decrement makes of a TTL. -/
theorem toNat_ttl_sub_one : (ipTtl q - 1).toNat + 1 = lifetime q := by
  unfold lifetime
  split_ifs with hzero
  · rw [hzero]
    rfl
  · have := UInt8.toNat_inj.not.mpr hzero
    rw [UInt8.toNat_zero] at this
    rw [toNat_sub_one hzero]
    omega

/-- The TTL of a copy is what is left to it. -/
theorem lifetime_transit {shost dhost : EtherAddr} (hlen : 34 ≤ q.length) (h : ipTtl q - 1 ≠ 0) :
    ipTtl (rewriteEther (transitCopy q) shost dhost) ≠ 0 ∧
      lifetime (rewriteEther (transitCopy q) shost dhost) + 1 = lifetime q := by
  have httl : ipTtl (rewriteEther (transitCopy q) shost dhost) = ipTtl q - 1 := by
    rw [ipTtl_rewriteEther, ipTtl_transitCopy hlen]
  refine ⟨httl ▸ h, ?_⟩
  rw [lifetime, httl, if_neg h, toNat_ttl_sub_one]

/-- Each router takes one. -/
theorem Hops.lifetime_add (h : Hops p k q) : lifetime q + k = lifetime p := by
  induction h with
  | zero => rfl
  | succ shost dhost _ hlen _ httl ih =>
      obtain ⟨-, hone⟩ : _ ∧ lifetime (rewriteEther (transitCopy _) shost dhost) + 1 = _ :=
        lifetime_transit hlen httl
      omega

/-- No frame gets through more than 255 routers. -/
theorem Hops.le (h : Hops p k q) : k ≤ 255 := by
  have hsum := h.lifetime_add
  have hpos := one_le_lifetime (p := q)
  have hle := lifetime_le (p := p)
  omega

/-- After one router or more, the TTL and the number of routers make the lifetime of the frame, and
the header checksum is right. -/
theorem Hops.ttl (h : Hops p k q) (hk : k ≠ 0) :
    (ipTtl q).toNat + k = lifetime p ∧ Valid (ipHdr q) := by
  have hsum := h.lifetime_add
  cases h with
  | zero => exact absurd rfl hk
  | succ shost dhost h hlen hcheck httl =>
      rw [lifetime, if_neg (lifetime_transit hlen httl).1] at hsum
      refine ⟨hsum, ?_⟩
      rw [ipHdr, slice_rewriteEther (by omega)]
      exact valid_ipHdr_transitCopy hlen

end hops

namespace Network

variable {ρ L : Type} [DecidableEq ρ] [DecidableEq L] {N : Network ρ L}
  {tr : Medium.Trace ρ Input Effect (L × List UInt8)}
  {s : Medium.State ρ SrInstance (L × List UInt8)}

/-- A host has put the frame on the wire, or a router has made it: an ICMP or ARP message. -/
def IsSource (tr : Medium.Trace ρ Input Effect (L × List UInt8)) (p : List UInt8) : Prop :=
  (∃ l, .inject (l, p) ∈ tr.map Prod.fst) ∨
    ∃ r caller name, (r, .send caller p name) ∈ outputs tr ∧ ¬ caller.IsTransit

/-- Every frame on the wire comes from a source. -/
theorem hops_of_mem_air (h : N.Reaches tr s) {l : L} {q : List UInt8} (hmem : (l, q) ∈ s.air) :
    ∃ p k, IsSource tr p ∧ Hops p k q := by
  have hrun : Run (N.medium.whole step) N.start tr s := h
  have hair : ∀ m ∈ N.start.air, ∃ p k, IsSource tr p ∧ Hops p k m.2 :=
    fun m hm => absurd hm List.not_mem_nil
  refine (Medium.good_of_run (G := fun m : L × List UInt8 => ∃ p k, IsSource tr p ∧ Hops p k m.2)
    hrun (List.Subset.refl tr) hair ?_ ?_).1 (l, q) hmem
  · rintro ⟨l, p⟩ hinject
    exact ⟨p, 0, .inl ⟨l, hinject⟩, .zero⟩
  rintro r pre sr i sr' o hrun hstep htaken hsent e he ⟨l, p⟩ hput
  obtain ⟨caller, name, rfl⟩ := puts_eq_some hput
  by_cases hcaller : caller.IsTransit
  case neg => exact ⟨p, 0, .inr ⟨r, caller, name, hsent _ he, hcaller⟩, .zero⟩
  -- a transit frame is the copy of one that was on the wire before
  have hsend : .send caller p name ∈ outputs (pre ++ [(i, o)]) :=
    mem_outputs.mpr ⟨i, o, List.mem_append_right _ (List.mem_singleton_self _), he⟩
  obtain ⟨_, shost, dhost, ⟨j, hj, buf, interface, hevent, -, hlen, hok, httl, rfl⟩, rfl⟩ :=
    (copyInv_of_run (hrun.snoc hstep)).sent caller p name hsend hcaller
  obtain ⟨x, hx, rfl⟩ := List.mem_map.mp hj
  have htake : N.medium.takes r x.1 = some (N.lan r interface, buf) := by
    simp only [medium, hevent]
  obtain ⟨p, k, hp, hhops⟩ := htaken x hx (N.lan r interface, buf) htake
  exact ⟨p, k + 1, hp, .succ shost dhost hhops hlen hok httl⟩

end Network

end SimpleRouter
