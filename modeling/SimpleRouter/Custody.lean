import SimpleRouter.Invariant

/-!
# What becomes of a queued packet

Every packet put on the queue is accounted for, with the address it waits for: at any time the
packets ever queued are, up to order, those waiting, those flushed by an ARP reply and those
answered with host unreachable (`Custody.account`). The three lists are read off the queue and the
effects, and one lemma says what one action moves between them (`Action.balance`).

* `custody_of_run` — the account holds in every run.
* `packet_custody` — **no queued packet is lost or duplicated**: each is waiting on exactly one
  request, or has been flushed once by a reply for the address of its request, or has been
  answered once; and it is one of the three only. The frame sent is made of the packet queued.
-/

namespace SimpleRouter

open Buffer Machine

/-! ### The account -/

/-- The packet an effect queues, with the address it waits for. -/
def Effect.enqueued? : Effect → Option (UInt32 × SrPacket)
  | .enqueue ip pkt => some (ip, pkt)
  | _ => none

/-- The queued packet an effect flushes, with the address of its request. -/
def Effect.flushed? : Effect → Option (UInt32 × SrPacket)
  | .send (.flush req pkt) _ _ => some (req.ip, pkt)
  | _ => none

/-- The queued packet an effect answers, with the address of its request. -/
def Effect.unreachable? : Effect → Option (UInt32 × SrPacket)
  | .send (.hostUnreachable req pkt) _ _ => some (req.ip, pkt)
  | _ => none

/-- The packets queued. -/
def enqueued (out : List Effect) : List (UInt32 × SrPacket) := out.filterMap Effect.enqueued?

/-- The packets flushed. -/
def flushed (out : List Effect) : List (UInt32 × SrPacket) := out.filterMap Effect.flushed?

/-- The packets answered with host unreachable. -/
def unreachable (out : List Effect) : List (UInt32 × SrPacket) :=
  out.filterMap Effect.unreachable?

/-- The packets of a request, with its address. -/
def SrArpreq.waiting (req : SrArpreq) : List (UInt32 × SrPacket) :=
  req.packets.map fun pkt => (req.ip, pkt)

/-- The packets waiting. -/
def waiting (cache : SrArpcache) : List (UInt32 × SrPacket) :=
  cache.requests.flatMap SrArpreq.waiting

/-- The packets put on the queue, part by part. -/
@[simp] theorem enqueued_append (out out' : List Effect) :
    enqueued (out ++ out') = enqueued out ++ enqueued out' := List.filterMap_append ..

/-- The packets flushed, part by part. -/
@[simp] theorem flushed_append (out out' : List Effect) :
    flushed (out ++ out') = flushed out ++ flushed out' := List.filterMap_append ..

/-- The packets given up, part by part. -/
@[simp] theorem unreachable_append (out out' : List Effect) :
    unreachable (out ++ out') = unreachable out ++ unreachable out' := List.filterMap_append ..

/-- What has been put on the queue. -/
theorem mem_enqueued_iff {out : List Effect} {ip : UInt32} {pkt : SrPacket} :
    (ip, pkt) ∈ enqueued out ↔ .enqueue ip pkt ∈ out := by
  rw [enqueued, List.mem_filterMap]
  constructor
  · rintro ⟨e, he, h⟩
    cases e <;> cases h
    exact he
  · intro he
    exact ⟨_, he, rfl⟩

/-- What has been flushed has been sent by a flush of its request. -/
theorem Effect.flushed?_eq_some {e : Effect} {ip : UInt32} {pkt : SrPacket}
    (h : e.flushed? = some (ip, pkt)) :
    ∃ req p name, e = .send (.flush req pkt) p name ∧ req.ip = ip := by
  unfold Effect.flushed? at h
  split at h <;> cases h
  exact ⟨_, _, _, rfl, rfl⟩

/-- What has been given up has been answered for its request. -/
theorem Effect.unreachable?_eq_some {e : Effect} {ip : UInt32} {pkt : SrPacket}
    (h : e.unreachable? = some (ip, pkt)) :
    ∃ req p name, e = .send (.hostUnreachable req pkt) p name ∧ req.ip = ip := by
  unfold Effect.unreachable? at h
  split at h <;> cases h
  exact ⟨_, _, _, rfl, rfl⟩

/-- What is waiting is on a request of the queue. -/
theorem mem_waiting_iff {cache : SrArpcache} {ip : UInt32} {pkt : SrPacket} :
    (ip, pkt) ∈ waiting cache ↔ ∃ req ∈ cache.requests, req.ip = ip ∧ pkt ∈ req.packets := by
  simp only [waiting, SrArpreq.waiting, List.mem_flatMap, List.mem_map, Prod.mk.injEq]
  constructor
  · rintro ⟨req, hreq, _, hpkt, rfl, rfl⟩
    exact ⟨req, hreq, rfl, hpkt⟩
  · rintro ⟨req, hreq, rfl, hpkt⟩
    exact ⟨req, hreq, pkt, hpkt, rfl, rfl⟩

/-! ### What one action moves -/

section balance

variable {i : Input} {sr sr' : SrInstance} {out : List Effect} {req : SrArpreq}

/-- Flushing a request flushes its packets and nothing else. -/
theorem FlushOut.account {interface : IfaceName} {sha : EtherAddr}
    (h : FlushOut sr interface sha req out) :
    enqueued out = [] ∧ flushed out = req.waiting ∧ unreachable out = [] := by
  refine ⟨filterMap_rounds_none h ?_, filterMap_rounds h ?_, filterMap_rounds_none h ?_⟩
  all_goals
    rintro pkt e ⟨iface, -, rfl⟩
    rfl

/-- Giving a request up answers its packets and nothing else. -/
theorem GiveUpOut.account {env : Env} (h : GiveUpOut sr env req out) :
    enqueued out = [] ∧ flushed out = [] ∧ unreachable out = req.waiting := by
  refine ⟨filterMap_rounds_none h ?_, filterMap_rounds_none h ?_, filterMap_rounds h ?_⟩
  all_goals
    rintro pkt e ⟨iface, -, rfl⟩
    rfl

/-- Queueing a packet makes it wait. -/
theorem waiting_queuereq {cache : SrArpcache} {ip : UInt32} {packet : List UInt8}
    {iface : IfaceName} (hI : CacheInv cache) (hp : packet ≠ []) :
    (waiting (srArpcacheQueuereq cache ip packet iface).1).Perm
      ((ip, cache.newPacket packet iface) :: waiting cache) := by
  cases hfind : Keyed.find SrArpreq.ip ip cache.requests with
  | none =>
      rw [queuereq_new hp hfind]
      exact List.Perm.refl _
  | some req =>
      rw [queuereq_found hp hfind]
      refine Keyed.flatMap_modify_perm [(ip, cache.newPacket packet iface)] hI.id_nodup
        ((Keyed.find_eq_some_iff hI.id_nodup).mpr ⟨Keyed.mem_of_find hfind, rfl⟩) ?_
      obtain rfl := Keyed.key_of_find hfind
      rfl

/-- Sending a request moves no packet. -/
theorem waiting_resendCache (cache : SrArpcache) (id : ℕ) (now : ℤ) :
    waiting (resendCache cache id now) = waiting cache := by
  rw [waiting, waiting, List.flatMap_def, List.flatMap_def, resendCache,
    Keyed.map_modify (f := SrArpreq.resend now) (g := SrArpreq.waiting) fun _ => rfl]

/-- After an insertion the request unlinked is not on the queue, so freeing it unlinks nothing. -/
theorem requests_flush {cache : SrArpcache} {mac : EtherAddr} {ip : UInt32} {now : ℤ}
    (hI : CacheInv cache) (hfind : Keyed.find SrArpreq.ip ip cache.requests = some req) :
    (srArpreqDestroy (srArpcacheInsert cache mac ip now).1 req.id).requests =
      Keyed.erase SrArpreq.ip ip cache.requests := by
  refine Keyed.erase_eq_self ?_
  intro r hr hid
  obtain ⟨hr, hip⟩ := (Keyed.mem_erase_iff hI.ip_nodup).mp hr
  obtain rfl := List.inj_on_of_nodup_map hI.id_nodup hr (Keyed.mem_of_find hfind) hid
  exact hip (Keyed.key_of_find hfind)

/-- An action that moves no packet. -/
theorem balance_of_quiet (he : enqueued out = []) (hf : flushed out = [])
    (hu : unreachable out = []) (hw : waiting sr'.cache = waiting sr.cache) :
    (enqueued out ++ waiting sr.cache).Perm
      (waiting sr'.cache ++ flushed out ++ unreachable out) := by
  rw [he, hf, hu, hw, List.nil_append, List.append_nil, List.append_nil]

/-- **What one action moves**: it puts packets on the queue, or takes them off it to flush or to
answer them. -/
theorem Action.balance (hI : CacheInv sr.cache) (h : Action i sr out sr') :
    (enqueued out ++ waiting sr.cache).Perm
      (waiting sr'.cache ++ flushed out ++ unreachable out) := by
  cases h with
  | respond | forward | reply | dangling | expire => exact balance_of_quiet rfl rfl rfl rfl
  | queue _ _ hverdict =>
      refine (waiting_queuereq hI (queued_ne_nil hverdict)).symm.trans ?_
      rw [show flushed [_] = [] from rfl, show unreachable [_] = [] from rfl, List.append_nil,
        List.append_nil]
  | learn _ _ _ hfind =>
      refine balance_of_quiet rfl rfl rfl ?_
      rw [waiting, learnCache, insert_requests,
        Keyed.erase_eq_self (Keyed.find_eq_none_iff.mp hfind), waiting]
  | flush _ _ _ hfind hout =>
      obtain ⟨he, hf, hu⟩ := hout.account
      rw [he, hf, hu, List.nil_append, List.append_nil, waiting, waiting, learnCache,
        requests_flush hI hfind]
      exact (Keyed.flatMap_erase_perm SrArpreq.waiting hfind).trans List.perm_append_comm
  | transmit => exact balance_of_quiet rfl rfl rfl (waiting_resendCache ..)
  | giveUp hfind _ _ hout =>
      obtain ⟨he, hf, hu⟩ := hout.account
      rw [he, hf, hu, List.append_nil, List.nil_append]
      exact (Keyed.flatMap_erase_perm SrArpreq.waiting hfind).trans List.perm_append_comm

end balance

/-! ### Runs -/

/-- The account of a run. -/
structure Custody (tr : History) (sr : SrInstance) : Prop where
  /-- The cache invariant. -/
  cache : CacheInv sr.cache
  /-- What has been queued is waiting, flushed or answered. -/
  account : (enqueued (outputs tr)).Perm
    (waiting sr.cache ++ flushed (outputs tr) ++ unreachable (outputs tr))
  /-- Each packet queued is a node of its own. -/
  id_nodup : ((enqueued (outputs tr)).map fun x => x.2.id).Nodup
  /-- The next packet is at a new address. -/
  id_lt : ∀ x ∈ enqueued (outputs tr), x.2.id < sr.cache.pktSeq

/-- What an action queues is a node at the next address. -/
theorem Action.enqueued_cases {i : Input} {sr sr' : SrInstance} {out : List Effect}
    (h : Action i sr out sr') :
    (enqueued out = [] ∧ sr'.cache.pktSeq = sr.cache.pktSeq) ∨
      ∃ ip pkt, enqueued out = [(ip, pkt)] ∧ pkt.id = sr.cache.pktSeq ∧
        sr'.cache.pktSeq = sr.cache.pktSeq + 1 := by
  cases h with
  | respond | forward | reply | dangling | expire | learn | transmit => exact .inl ⟨rfl, rfl⟩
  | flush _ _ _ _ hout => exact .inl ⟨hout.account.1, rfl⟩
  | giveUp _ _ _ hout => exact .inl ⟨hout.account.1, rfl⟩
  | @queue _ packet _ rt _ _ hverdict =>
      refine .inr ⟨_, _, rfl, rfl, ?_⟩
      cases hfind : Keyed.find SrArpreq.ip rt.gw sr.cache.requests with
      | none => rw [queuereq_new (queued_ne_nil hverdict) hfind]
      | some req => rw [queuereq_found (queued_ne_nil hverdict) hfind]

/-- An action keeps it. -/
theorem Custody.action {tr : History} {i : Input} {out o : List Effect} {sr sr' : SrInstance}
    (hC : Custody (tr ++ [(i, out)]) sr) (h : Action i sr o sr') :
    Custody (tr ++ [(i, out ++ o)]) sr' := by
  have hsplit : outputs (tr ++ [(i, out ++ o)]) = outputs (tr ++ [(i, out)]) ++ o := by
    simp
  constructor
  case cache => exact hC.cache.action h
  case account =>
    have hbalance := List.perm_iff_count.mp (h.balance hC.cache)
    have haccount := List.perm_iff_count.mp hC.account
    rw [hsplit, enqueued_append, flushed_append, unreachable_append, List.perm_iff_count]
    intro x
    have h₁ := hbalance x
    have h₂ := haccount x
    simp only [List.count_append] at h₁ h₂ ⊢
    omega
  case id_nodup =>
    rw [hsplit, enqueued_append, List.map_append]
    rcases h.enqueued_cases with ⟨he, -⟩ | ⟨ip, pkt, he, hid, -⟩
    · rw [he, List.map_nil, List.append_nil]
      exact hC.id_nodup
    · rw [he]
      refine List.nodup_append.mpr ⟨hC.id_nodup, List.nodup_singleton _, ?_⟩
      intro a ha b hb hab
      obtain ⟨x, hx, rfl⟩ := List.mem_map.mp ha
      obtain rfl := List.mem_singleton.mp hb
      exact (hC.id_lt x hx).ne (hab.trans hid)
  case id_lt =>
    rw [hsplit, enqueued_append]
    intro x hx
    rcases h.enqueued_cases with ⟨he, hseq⟩ | ⟨ip, pkt, he, hid, hseq⟩
    · rw [he, List.append_nil] at hx
      rw [hseq]
      exact hC.id_lt x hx
    · rw [he] at hx
      rw [hseq]
      rcases List.mem_append.mp hx with hx | hx
      · exact (hC.id_lt x hx).trans (Nat.lt_succ_self _)
      · rw [List.mem_singleton.mp hx]
        exact hid ▸ Nat.lt_succ_self _

/-- It holds in the beginning, and is kept. -/
theorem custody_inductive {ifList : List SrIf} {routingTable : List SrRt} :
    Inductive Action (srInit ifList routingTable) Custody where
  init := ⟨CacheInv.init, List.Perm.refl _, List.nodup_nil, by simp [enqueued]⟩
  input := fun tr sr i hC => by
    have hsame : outputs (tr ++ [(i, [])]) = outputs tr := by simp
    exact ⟨hC.cache, hsame ▸ hC.account, hsame ▸ hC.id_nodup, hsame ▸ hC.id_lt⟩
  action := fun _ _ _ _ _ _ hC h => hC.action h

/-- **The account holds in every run.** -/
theorem custody_of_run {ifList : List SrIf} {routingTable : List SrRt} {tr : History}
    {sr : SrInstance} (h : Run step (srInit ifList routingTable) tr sr) : Custody tr sr :=
  custody_inductive.run step_refines h

/-! ### Each packet -/

section packets

variable {ifList : List SrIf} {routingTable : List SrRt} {tr : History} {sr : SrInstance}
  {ip : UInt32} {pkt : SrPacket}

/-- How often the node `pkt` occurs on a list of packets. -/
def occurrences (pkt : SrPacket) (l : List (UInt32 × SrPacket)) : ℕ :=
  (l.map fun x => x.2.id).count pkt.id

/-- A node that occurs is there under the address it was queued for. -/
theorem Custody.mem_of_occurrences {l : List (UInt32 × SrPacket)} (hC : Custody tr sr)
    (he : .enqueue ip pkt ∈ outputs tr) (hl : ∀ x ∈ l, x ∈ enqueued (outputs tr))
    (h : occurrences pkt l = 1) : (ip, pkt) ∈ l := by
  have hpos : 0 < (l.map fun x => x.2.id).count pkt.id := by
    rw [show (l.map fun x => x.2.id).count pkt.id = 1 from h]
    exact Nat.one_pos
  obtain ⟨x, hx, hid⟩ := List.mem_map.mp (List.count_pos_iff.mp hpos)
  have hsame : x = (ip, pkt) :=
    List.inj_on_of_nodup_map hC.id_nodup (hl x hx) (mem_enqueued_iff.mpr he) hid
  exact hsame ▸ hx

/-- A packet ever queued is waiting, flushed or answered, once. -/
theorem Custody.occurrences_eq (hC : Custody tr sr) (he : .enqueue ip pkt ∈ outputs tr) :
    occurrences pkt (waiting sr.cache) + occurrences pkt (flushed (outputs tr)) +
      occurrences pkt (unreachable (outputs tr)) = 1 := by
  have hone : occurrences pkt (enqueued (outputs tr)) = 1 :=
    List.count_eq_one_of_mem hC.id_nodup
      (List.mem_map.mpr ⟨(ip, pkt), mem_enqueued_iff.mpr he, rfl⟩)
  have hperm := (hC.account.map fun x => x.2.id).count_eq pkt.id
  rw [List.map_append, List.map_append, List.count_append, List.count_append] at hperm
  exact hperm.symm.trans hone

/-- **A flush of the packet `pkt`** that waits for `ip`: an ARP reply from `ip` came in on an
interface, and the packet leaves on its own interface with the two hardware addresses in front. -/
def IsFlush (sr : SrInstance) (i : Input) (ip : UInt32) (pkt : SrPacket) (p : List UInt8)
    (name : IfaceName) : Prop :=
  ∃ interface sha iface, i.IsReply interface ip sha ∧ srGetInterface sr interface = some iface ∧
    p = rewriteEther pkt.buf iface.addr sha ∧ name = pkt.iface

/-- **The host unreachable for the packet `pkt`**, out of its own interface. -/
def IsUnreachable (sr : SrInstance) (i : Input) (pkt : SrPacket) (p : List UInt8)
    (name : IfaceName) : Prop :=
  ∃ iface, srGetInterface sr pkt.iface = some iface ∧
    p = icmpT3Frame iface pkt.buf (i.env.pktAfter pkt.id) 3 1 ∧ name = pkt.iface ∧
    icmpType p = 3 ∧ icmpCode p = 1

/-- A flush is one. -/
theorem isFlush_of_run (h : Run step (srInit ifList routingTable) tr sr) {i : Input}
    {out : List Effect} {req : SrArpreq} {p : List UInt8} {name : IfaceName} (hi : (i, out) ∈ tr)
    (he : .send (.flush req pkt) p name ∈ out) :
    IsFlush (srInit ifList routingTable) i req.ip pkt p name := by
  refine runInv_inductive.output (Q := fun i e => ∀ req pkt p name,
    e = .send (.flush req pkt) p name → IsFlush (srInit ifList routingTable) i req.ip pkt p name)
    step_refines ?_ h hi he _ _ _ _ rfl
  rintro tr i out sr o sr' hI ha e he req pkt p name rfl
  obtain ⟨interface, sha, iface, hreply, hiface, hp, hname⟩ := (ha.emits he).flushed
  exact ⟨interface, sha, iface, hreply, hI.getInterface interface ▸ hiface, hp, hname⟩

/-- An answer is a host unreachable. -/
theorem isUnreachable_of_run (h : Run step (srInit ifList routingTable) tr sr) {i : Input}
    {out : List Effect} {req : SrArpreq} {p : List UInt8} {name : IfaceName} (hi : (i, out) ∈ tr)
    (he : .send (.hostUnreachable req pkt) p name ∈ out) :
    IsUnreachable (srInit ifList routingTable) i pkt p name := by
  refine runInv_inductive.output (Q := fun i e => ∀ req pkt p name,
    e = .send (.hostUnreachable req pkt) p name →
      IsUnreachable (srInit ifList routingTable) i pkt p name)
    step_refines ?_ h hi he _ _ _ _ rfl
  rintro tr i out sr o sr' hI ha e he req pkt p name rfl
  obtain ⟨iface, hiface, hp, hname⟩ := (ha.emits he).unreachable
  refine ⟨iface, hI.getInterface pkt.iface ▸ hiface, hp, hname, ?_⟩
  rw [hp]
  exact icmpType_putIcmpT3 (by simp)

/-- **No queued packet is lost or duplicated.** Whatever has been put on the list of the request
for `ip` is, in every reachable state, exactly one of these, exactly once: on the list of a
request for `ip`; flushed by an ARP reply from `ip`, as it was queued but for the hardware
addresses; answered with a host unreachable that quotes it. -/
theorem packet_custody (h : Run step (srInit ifList routingTable) tr sr)
    (he : .enqueue ip pkt ∈ outputs tr) :
    (occurrences pkt (waiting sr.cache) = 1 ∧ occurrences pkt (flushed (outputs tr)) = 0 ∧
        occurrences pkt (unreachable (outputs tr)) = 0 ∧
        ∃ req ∈ sr.cache.requests, req.ip = ip ∧ pkt ∈ req.packets) ∨
      (occurrences pkt (waiting sr.cache) = 0 ∧ occurrences pkt (flushed (outputs tr)) = 1 ∧
        occurrences pkt (unreachable (outputs tr)) = 0 ∧
        ∃ i out req p name, (i, out) ∈ tr ∧ .send (.flush req pkt) p name ∈ out ∧ req.ip = ip ∧
          IsFlush (srInit ifList routingTable) i ip pkt p name) ∨
      (occurrences pkt (waiting sr.cache) = 0 ∧ occurrences pkt (flushed (outputs tr)) = 0 ∧
        occurrences pkt (unreachable (outputs tr)) = 1 ∧
        ∃ i out req p name, (i, out) ∈ tr ∧ .send (.hostUnreachable req pkt) p name ∈ out ∧
          req.ip = ip ∧ IsUnreachable (srInit ifList routingTable) i pkt p name) := by
  have hC := custody_of_run h
  have hsum := hC.occurrences_eq he
  have hmem : ∀ x, x ∈ waiting sr.cache ∨ x ∈ flushed (outputs tr) ∨
      x ∈ unreachable (outputs tr) → x ∈ enqueued (outputs tr) := by
    intro x hx
    rw [hC.account.mem_iff, List.mem_append, List.mem_append, or_assoc]
    exact hx
  obtain ⟨hw, hf, hu⟩ | ⟨hw, hf, hu⟩ | ⟨hw, hf, hu⟩ :
      (occurrences pkt (waiting sr.cache) = 1 ∧ occurrences pkt (flushed (outputs tr)) = 0 ∧
        occurrences pkt (unreachable (outputs tr)) = 0) ∨
      (occurrences pkt (waiting sr.cache) = 0 ∧ occurrences pkt (flushed (outputs tr)) = 1 ∧
        occurrences pkt (unreachable (outputs tr)) = 0) ∨
      (occurrences pkt (waiting sr.cache) = 0 ∧ occurrences pkt (flushed (outputs tr)) = 0 ∧
        occurrences pkt (unreachable (outputs tr)) = 1) := by omega
  · have hin := hC.mem_of_occurrences he (fun x hx => hmem x (.inl hx)) hw
    exact .inl ⟨hw, hf, hu, mem_waiting_iff.mp hin⟩
  · have hin := hC.mem_of_occurrences he (fun x hx => hmem x (.inr (.inl hx))) hf
    obtain ⟨e, hsend, heq⟩ := List.mem_filterMap.mp hin
    obtain ⟨i, out, hi, hsend⟩ := mem_outputs.mp hsend
    obtain ⟨req, p, name, rfl, rfl⟩ := Effect.flushed?_eq_some heq
    exact .inr (.inl ⟨hw, hf, hu, i, out, req, p, name, hi, hsend, rfl, isFlush_of_run h hi hsend⟩)
  · have hin := hC.mem_of_occurrences he (fun x hx => hmem x (.inr (.inr hx))) hu
    obtain ⟨e, hsend, heq⟩ := List.mem_filterMap.mp hin
    obtain ⟨i, out, hi, hsend⟩ := mem_outputs.mp hsend
    obtain ⟨req, p, name, rfl, rfl⟩ := Effect.unreachable?_eq_some heq
    exact .inr (.inr ⟨hw, hf, hu, i, out, req, p, name, hi, hsend, rfl,
      isUnreachable_of_run h hi hsend⟩)

end packets

/-- A packet queued at time 1 and flushed by the reply of its next hop at time 2. -/
theorem packet_custody_twoPort : ∃ tr sr, Run step twoPort tr sr ∧
    .enqueue (netAddr 2 2) firstPkt ∈ outputs tr ∧
    occurrences firstPkt (flushed (outputs tr)) = 1 ∧
    occurrences firstPkt (waiting sr.cache) = 0 := by
  obtain ⟨tr, sr, hrun, -, htest⟩ := exists_run step twoPort
    [firstArrival, replyArrival (ethName 2)]
    (fun sr tr => .enqueue (netAddr 2 2) firstPkt ∈ outputs tr ∧
      unreachable (outputs tr) = [] ∧ sr.cache.requests = []) (by decide +kernel)
  obtain ⟨he, hu, hempty⟩ := of_decide_eq_true htest
  refine ⟨tr, sr, hrun, he, ?_⟩
  rcases packet_custody hrun he with ⟨-, -, -, _, hreq, -⟩ | ⟨hw, hf, -⟩ | ⟨-, -, hone, -⟩
  · rw [hempty] at hreq
    cases hreq
  · exact ⟨hf, hw⟩
  · rw [hu] at hone
    cases hone

end SimpleRouter
