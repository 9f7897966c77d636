import SimpleRouter.Custody
import SimpleRouter.Sweep
import SimpleRouter.Lib.Potential

/-!
# How much the router sends for what it receives

Only a received frame makes the router send anything in the long run: the timer sends what frames
have left on the queue. The argument is one of prices (`Machine.Tariff`): a frame received brings
something, a frame sent costs something, and what the queue holds is the difference.

* `Fair` — what the price of a send and the weight of a request have to satisfy, operation by
  operation, for the books to balance; `Fair.pays` — then every step pays.
* `fair_arpRequest` — an ARP request costs one, a request of the queue weighs what is left of its
  five transmissions, a frame brings five; `fair_other` — every other frame costs one, a request
  weighs its packets, a frame brings one.
* `frames_sent_le` — **in every run the router sends at most five ARP requests and one other frame
  for every frame it has received**, what is still due included.
-/

namespace SimpleRouter

open Machine

/-! ### Prices -/

/-- A frame received. -/
def Input.isFrame (i : Input) : Bool :=
  match i.event with
  | .packet _ _ => true
  | _ => false

/-- The price of an effect, by the caller of `sr_send_packet`. -/
def Effect.price (cost : Caller → ℕ) : Effect → ℕ
  | .send caller _ _ => cost caller
  | _ => 0

/-- Prices for calls of `sr_send_packet`, weights for the requests of the queue, and what a frame
brings. -/
def queueTariff (cost : Caller → ℕ) (weight : SrArpreq → ℕ) (price : ℕ) :
    Tariff SrInstance Input Effect where
  cost := Effect.price cost
  reserve sr := (sr.cache.requests.map weight).sum
  credit i := if i.isFrame then price else 0

/-- The books of the queue balance, operation by operation. -/
structure Fair (cost : Caller → ℕ) (weight : SrArpreq → ℕ) (price : ℕ) : Prop where
  /-- A frame sent at once is paid by the frame received. -/
  send_le : ∀ caller, cost caller ≤ price
  /-- So is a packet put on a request. -/
  push_le : ∀ req pkt, weight (req.push pkt) ≤ weight req + price
  /-- And a new request. -/
  fresh_le : ∀ id ip pkt, weight ⟨id, ip, 0, 0, [pkt]⟩ ≤ price
  /-- A request pays for its transmissions. -/
  resend_le : ∀ req now, req.timesSent < 5 →
    cost (.arpRequest req.id now) + weight (req.resend now) ≤ weight req
  /-- It pays for flushing its packets. -/
  flush_le : ∀ req, (req.packets.map fun pkt => cost (.flush req pkt)).sum ≤ weight req
  /-- Or for answering them. -/
  giveUp_le : ∀ req, (req.packets.map fun pkt => cost (.hostUnreachable req pkt)).sum ≤ weight req

/-! ### Every step pays -/

section pays

variable {cost : Caller → ℕ} {weight : SrArpreq → ℕ} {price : ℕ} {sr sr' : SrInstance} {i : Input}
  {out : List Effect} {req : SrArpreq}

/-- Queueing a packet adds to the reserve no more than a frame brings. -/
theorem Fair.queuereq (hF : Fair cost weight price) {cache : SrArpcache} {ip : UInt32}
    {packet : List UInt8} {iface : IfaceName} (hI : CacheInv cache) (hp : packet ≠ []) :
    ((srArpcacheQueuereq cache ip packet iface).1.requests.map weight).sum ≤
      (cache.requests.map weight).sum + price := by
  cases hfind : Keyed.find SrArpreq.ip ip cache.requests with
  | none =>
      have hfresh := hF.fresh_le cache.reqSeq ip (cache.newPacket packet iface)
      rw [queuereq_new hp hfind, List.map_cons, List.sum_cons]
      omega
  | some req =>
      have hpush := hF.push_le req (cache.newPacket packet iface)
      have hsum := Keyed.sum_modify weight (f := SrArpreq.push (cache.newPacket packet iface))
        hI.id_nodup ((Keyed.find_eq_some_iff hI.id_nodup).mpr ⟨Keyed.mem_of_find hfind, rfl⟩)
      rw [queuereq_found hp hfind]
      dsimp only
      omega

/-- Flushing a request costs no more than it weighs. -/
theorem Fair.flush (hF : Fair cost weight price) {interface : IfaceName} {sha : EtherAddr}
    (h : FlushOut sr interface sha req out) :
    (queueTariff cost weight price).total out ≤ weight req := by
  rw [Tariff.total_rounds (f := fun pkt => cost (.flush req pkt)) _ h]
  · exact hF.flush_le req
  · rintro pkt e ⟨iface, -, rfl⟩
    rfl

/-- Nor does giving it up. -/
theorem Fair.giveUp (hF : Fair cost weight price) {env : Env} (h : GiveUpOut sr env req out) :
    (queueTariff cost weight price).total out ≤ weight req := by
  rw [Tariff.total_rounds (f := fun pkt => cost (.hostUnreachable req pkt)) _ h]
  · exact hF.giveUp_le req
  · rintro pkt e ⟨iface, -, rfl⟩
    rfl

/-- What is done without a frame is paid by the queue. -/
theorem Fair.action (hF : Fair cost weight price) (hI : CacheInv sr.cache)
    (hi : i.isFrame = false) (h : Action i sr out sr') :
    (queueTariff cost weight price).total out + (queueTariff cost weight price).reserve sr' ≤
      (queueTariff cost weight price).reserve sr := by
  have hno {buf : List UInt8} {interface : IfaceName} :
      i.event ≠ .packet buf interface := by
    intro hevent
    simp [Input.isFrame, hevent] at hi
  cases h with
  | respond hevent | forward hevent | queue hevent | reply hevent | learn hevent | flush hevent =>
      exact absurd hevent hno
  | @transmit req pkt iface hfind _ htimes =>
      have hle := hF.resend_le req (i.env.clock req.id) htimes
      have hsum := Keyed.sum_modify weight (f := SrArpreq.resend (i.env.clock req.id))
        hI.id_nodup hfind
      simp only [queueTariff, Tariff.total, Effect.price, resendCache, List.map_cons, List.map_nil,
        List.sum_cons, List.sum_nil]
      omega
  | giveUp hfind _ _ hout =>
      have hle := hF.giveUp hout
      have hsum := Keyed.sum_erase weight hfind
      simp only [queueTariff, srArpreqDestroy] at hle ⊢
      omega
  | expire => exact le_of_eq (Nat.zero_add _)
  | dangling => exact le_of_eq (Nat.zero_add _)

/-- So are whole steps without a frame, and the calls of `handle_arpreq` a frame makes. -/
theorem Fair.path (hF : Fair cost weight price) (hI : CacheInv sr.cache)
    (hi : i.isFrame = false) (h : Path (Action i) sr out sr') :
    (queueTariff cost weight price).total out + (queueTariff cost weight price).reserve sr' ≤
      (queueTariff cost weight price).reserve sr :=
  (Tariff.path (P := fun sr => CacheInv sr.cache)
    (fun _ _ _ hI ha => ⟨hF.action hI hi ha, hI.action ha⟩) hI h).1

/-- A frame sent at once, the queue left alone. -/
theorem Fair.send (hF : Fair cost weight price) (caller : Caller) (buf : List UInt8)
    (iface : IfaceName) :
    (queueTariff cost weight price).total [.send caller buf iface] +
      (queueTariff cost weight price).reserve sr ≤
      (queueTariff cost weight price).reserve sr + price := by
  have hle := hF.send_le caller
  simp only [Tariff.total, List.map_cons, List.map_nil, List.sum_cons, List.sum_nil, queueTariff,
    Effect.price]
  omega

/-- An IP packet pays for what it makes the router do. -/
theorem Fair.ipPacket (hF : Fair cost weight price) {env : Env} {buf : List UInt8}
    {interface : IfaceName} (hI : CacheInv sr.cache)
    (h : handleIpPacket sr env buf interface = .ok (sr', out)) :
    (queueTariff cost weight price).total out + (queueTariff cost weight price).reserve sr' ≤
      (queueTariff cost weight price).reserve sr + price := by
  rcases handleIpPacket_cases h with ⟨rfl, rfl⟩ | ⟨_, _, _, _, _, -, -, -, rfl, rfl⟩ |
    ⟨_, _, _, _, -, -, rfl, rfl⟩ | ⟨packet, rt, out₁, hverdict, h₁, rfl⟩
  · exact (le_of_eq (Nat.zero_add _)).trans (Nat.le_add_right _ _)
  · exact hF.send ..
  · exact hF.send ..
  · obtain ⟨-, -, -, hmiss, -⟩ := verdict_queue_iff.mp hverdict
    have hp := queued_ne_nil hverdict
    have hqueue : ((srArpcacheQueuereq sr.cache rt.gw packet rt.interface).1.requests.map
        weight).sum ≤ _ := hF.queuereq hI hp
    have hcall := hF.path (hI.queuereq hp hmiss) rfl
      (handleArpreq_path (i := ⟨env, .arpreq 0⟩) h₁)
    rw [Tariff.total_cons, show (queueTariff cost weight price).cost (.enqueue _ _) = 0 from rfl]
    simp only [queueTariff] at hqueue hcall ⊢
    omega

/-- An ARP packet pays for what it makes the router do. -/
theorem Fair.arpPacket (hF : Fair cost weight price) {env : Env} {buf : List UInt8}
    {interface : IfaceName} (hI : CacheInv sr.cache)
    (h : handleArpPacket sr env buf interface = .ok (sr', out)) :
    (queueTariff cost weight price).total out + (queueTariff cost weight price).reserve sr' ≤
      (queueTariff cost weight price).reserve sr + price := by
  by_cases hop : arOp buf env.after = 2
  · rcases handleArpPacket_reply hop h with ⟨hfind, rfl, rfl⟩ | ⟨req, hfind, hout, rfl⟩
    · have hsame : (learnCache sr env buf).requests = sr.cache.requests :=
        Keyed.erase_eq_self (Keyed.find_eq_none_iff.mp hfind)
      simp only [queueTariff, Tariff.total, hsame, List.map_nil, List.sum_nil]
      omega
    · have hle := hF.flush hout
      have hsum := Keyed.sum_erase weight hfind
      have hreq : (srArpreqDestroy (learnCache sr env buf) req.id).requests =
          Keyed.erase SrArpreq.ip (arSip buf env.after) sr.cache.requests := requests_flush hI hfind
      simp only [queueTariff, hreq] at hle ⊢
      omega
  · rcases handleArpPacket_request hop h with ⟨rfl, rfl | ⟨iface, -, -, rfl⟩⟩
    · exact (le_of_eq (Nat.zero_add _)).trans (Nat.le_add_right _ _)
    · exact hF.send ..

/-- **Every step pays.** -/
theorem Fair.pays (hF : Fair cost weight price) :
    (queueTariff cost weight price).Pays step fun sr => CacheInv sr.cache := by
  intro sr i sr' out hI h
  cases hevent : i.event with
  | packet buf interface =>
      have hcredit : (queueTariff cost weight price).credit i = price := by
        simp [queueTariff, Input.isFrame, hevent]
      rw [hcredit]
      simp only [step, hevent, srHandlepacket] at h
      split_ifs at h with hip harp
      · exact hF.ipPacket hI h
      · exact hF.arpPacket hI h
      · obtain ⟨rfl, rfl⟩ := Prod.mk.inj (Except.ok.inj h)
        exact (le_of_eq (Nat.zero_add _)).trans (Nat.le_add_right _ _)
  | arpreq req =>
      have hi : i.isFrame = false := by simp [Input.isFrame, hevent]
      exact (hF.path hI hi (step_refines _ _ _ _ h)).trans (Nat.le_add_right _ _)
  | timer =>
      have hi : i.isFrame = false := by simp [Input.isFrame, hevent]
      exact (hF.path hI hi (step_refines _ _ _ _ h)).trans (Nat.le_add_right _ _)

end pays

/-! ### ARP requests, and everything else -/

/-- The call in `handle_arpreq` that sends an ARP request. -/
def Caller.isArpRequest : Caller → Bool
  | .arpRequest _ _ => true
  | _ => false

/-- The effect sends an ARP request. -/
def Effect.isArpRequest : Effect → Bool
  | .send caller _ _ => caller.isArpRequest
  | _ => false

/-- The effect sends a frame of another kind. -/
def Effect.isOther : Effect → Bool
  | .send caller _ _ => !caller.isArpRequest
  | _ => false

/-- ARP requests: five for a request of the queue. -/
theorem fair_arpRequest :
    Fair (fun caller => if caller.isArpRequest then 1 else 0) (fun req => 5 - req.timesSent) 5 where
  send_le caller := by split_ifs <;> omega
  push_le req pkt := by
    dsimp only [SrArpreq.push]
    omega
  fresh_le id ip pkt := by
    dsimp only
    omega
  resend_le req now htimes := by
    simp only [Caller.isArpRequest, if_true, SrArpreq.resend]
    omega
  flush_le req := by simp [Caller.isArpRequest]
  giveUp_le req := by simp [Caller.isArpRequest]

/-- Other frames: one for a packet of the queue. -/
theorem fair_other :
    Fair (fun caller => if !caller.isArpRequest then 1 else 0) (fun req => req.packets.length)
      1 where
  send_le caller := by split_ifs <;> omega
  push_le req pkt := le_of_eq rfl
  fresh_le id ip pkt := le_of_eq rfl
  resend_le req now htimes := by simp [Caller.isArpRequest, SrArpreq.resend]
  flush_le req := by simp [Caller.isArpRequest]
  giveUp_le req := by simp [Caller.isArpRequest]

/-- The books over a run from an empty cache. -/
theorem Fair.run {cost : Caller → ℕ} {weight : SrArpreq → ℕ} {price : ℕ}
    (hF : Fair cost weight price) {ifList : List SrIf} {routingTable : List SrRt} {tr : History}
    {sr : SrInstance} (h : Run step (srInit ifList routingTable) tr sr) :
    (queueTariff cost weight price).total (outputs tr) +
      (queueTariff cost weight price).reserve sr ≤ price * tr.countP fun x => x.1.isFrame := by
  have hrun := Tariff.run hF.pays (fun _ _ hr => (runInv_of_run hr).cache) h
  rw [Tariff.income_eq_countP _ (fun _ => rfl),
    show (queueTariff cost weight price).reserve (srInit ifList routingTable) = 0 from rfl,
    Nat.zero_add] at hrun
  exact hrun

/-- **What the router sends for what it receives.** In every run, the ARP requests sent and those
still due are at most five for every frame received; the other frames sent, and the packets that
wait and will cost one each, are at most one for every frame received. -/
theorem frames_sent_le {ifList : List SrIf} {routingTable : List SrRt} {tr : History}
    {sr : SrInstance} (h : Run step (srInit ifList routingTable) tr sr) :
    (outputs tr).countP Effect.isArpRequest +
        (sr.cache.requests.map fun req => 5 - req.timesSent).sum ≤
      5 * (tr.countP fun x => x.1.isFrame) ∧
    (outputs tr).countP Effect.isOther + (waiting sr.cache).length ≤
      tr.countP fun x => x.1.isFrame := by
  have hrequests := fair_arpRequest.run h
  have hother := fair_other.run h
  rw [Tariff.total_eq_countP (p := Effect.isArpRequest) _ ?_] at hrequests
  · rw [Tariff.total_eq_countP (p := Effect.isOther) _ ?_, one_mul] at hother
    · refine ⟨hrequests, ?_⟩
      rw [waiting, List.length_flatMap]
      simp only [SrArpreq.waiting, List.length_map]
      exact hother
    · intro e
      cases e <;> rfl
  · intro e
    cases e <;> rfl

/-- Both bounds are met: one frame, then silence from its next hop, makes the router send five ARP
requests and one host unreachable. -/
theorem frames_sent_twoPort : ∃ tr sr, Run step twoPort tr sr ∧
    (tr.countP fun x => x.1.isFrame) = 1 ∧
    (outputs tr).countP Effect.isArpRequest = 5 ∧ (outputs tr).countP Effect.isOther = 1 ∧
    (sr.cache.requests.map fun req => 5 - req.timesSent).sum = 0 ∧
    (waiting sr.cache).length = 0 := by
  obtain ⟨tr, sr, hrun, -, htest⟩ := exists_run step twoPort (firstArrival :: fiveTimers)
    (fun _ tr => (tr.countP fun x => x.1.isFrame) = 1 ∧
      (outputs tr).countP Effect.isArpRequest = 5 ∧ (outputs tr).countP Effect.isOther = 1)
    (by decide +kernel)
  obtain ⟨hframes, hrequests, hother⟩ := of_decide_eq_true htest
  obtain ⟨h₁, h₂⟩ := frames_sent_le hrun
  exact ⟨tr, sr, hrun, hframes, hrequests, hother, by omega, by omega⟩

end SimpleRouter
