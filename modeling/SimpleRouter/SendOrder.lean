import SimpleRouter.Waiting

/-!
# In which order packets leave the queue

`sr_arpcache_queuereq` puts a packet in front of the list of its request, and both loops that
empty the list, that of `handle_arp_packet` and that of `handle_arpreq`, walk it from the front.

* `servedOf q out` — the packets of the request at address `q` that are flushed or answered.
* `OrderInv` — arrivals have increasing addresses, every list is in decreasing order, and a request
  on the queue has had nothing flushed or answered yet.
* `served_reversed` — **what waits for one ARP reply leaves in the reverse order of its arrival**,
  in every run.
-/

namespace SimpleRouter

open Machine

/-- The packet of the request at address `q` that an effect flushes or answers. -/
def Effect.servedOf? (q : ℕ) : Effect → Option ℕ
  | .send (.flush req pkt) _ _ => if req.id = q then some pkt.id else none
  | .send (.hostUnreachable req pkt) _ _ => if req.id = q then some pkt.id else none
  | _ => none

/-- The packets of the request at address `q` that are flushed or answered, in order. -/
def servedOf (q : ℕ) (out : List Effect) : List ℕ := out.filterMap (Effect.servedOf? q)

/-- The packets queued, in order. -/
def arrivals (out : List Effect) : List ℕ := (enqueued out).map fun x => x.2.id

/-- The packets served, part by part. -/
@[simp] theorem servedOf_append (q : ℕ) (out out' : List Effect) :
    servedOf q (out ++ out') = servedOf q out ++ servedOf q out' := List.filterMap_append ..

/-- The packets that have come, part by part. -/
@[simp] theorem arrivals_append (out out' : List Effect) :
    arrivals (out ++ out') = arrivals out ++ arrivals out' := by
  simp [arrivals]

section actions

variable {i : Input} {sr sr' : SrInstance} {out : List Effect} {req : SrArpreq}

/-- Every packet of a request, in the order of its list. -/
theorem servedOf_rounds {r : SrPacket → Effect → Prop} (h : List.Forall₂ r req.packets out)
    (hr : ∀ pkt e, r pkt e → ∀ q, e.servedOf? q = if req.id = q then some pkt.id else none)
    (q : ℕ) : servedOf q out = if req.id = q then req.packets.map SrPacket.id else [] := by
  split_ifs with hq
  · refine filterMap_rounds h fun pkt e he => ?_
    rw [hr pkt e he, if_pos hq]
  · refine filterMap_rounds_none h fun pkt e he => ?_
    rw [hr pkt e he, if_neg hq]

/-- **What an action takes off the queue**: nothing, or a whole request. -/
theorem Action.served_cases (hI : CacheInv sr.cache) (h : Action i sr out sr') :
    (∀ q, servedOf q out = []) ∨
      ∃ req ∈ sr.cache.requests, (∀ r ∈ sr'.cache.requests, r.id ≠ req.id) ∧
        ∀ q, servedOf q out = if req.id = q then req.packets.map SrPacket.id else [] := by
  cases h with
  | respond | forward | queue | reply | learn | transmit | expire | dangling =>
      exact .inl fun _ => rfl
  | flush _ _ _ hfind hout =>
      refine .inr ⟨_, Keyed.mem_of_find hfind, ?_, servedOf_rounds hout ?_⟩
      · intro r hr
        exact ((Keyed.mem_erase_iff (Keyed.map_erase_nodup hI.id_nodup)).mp hr).2
      · rintro pkt e ⟨iface, -, rfl⟩ q
        rfl
  | giveUp hfind _ _ hout =>
      refine .inr ⟨_, Keyed.mem_of_find hfind, ?_, servedOf_rounds hout ?_⟩
      · intro r hr
        exact ((Keyed.mem_erase_iff hI.id_nodup).mp hr).2
      · rintro pkt e ⟨iface, -, rfl⟩ q
        rfl

end actions

/-! ### The invariant -/

/-- The order of arrival, of the lists, and of what has left them. -/
structure OrderInv (tr : History) (sr : SrInstance) : Prop where
  /-- What has been queued is accounted for. -/
  custody : Custody tr sr
  /-- Arrivals have increasing addresses. -/
  arrived : (arrivals (outputs tr)).Pairwise (· < ·)
  /-- The newest packet is in front. -/
  waiting : ∀ r ∈ sr.cache.requests, (r.packets.map SrPacket.id).Pairwise (· > ·)
  /-- A request on the queue, or not made yet, has had no packet flushed or answered. -/
  unserved : ∀ q, ((∃ r ∈ sr.cache.requests, r.id = q) ∨ sr.cache.reqSeq ≤ q) →
    servedOf q (outputs tr) = []
  /-- What has left a request has left it newest first. -/
  served : ∀ q, (servedOf q (outputs tr)).Pairwise (· > ·)

section invariant

variable {i : Input} {sr sr' : SrInstance} {out o : List Effect} {tr : History}

/-- A packet queued is put in front of older ones. -/
theorem OrderInv.waiting_action (hO : OrderInv (tr ++ [(i, out)]) sr) (h : Action i sr o sr') :
    ∀ r ∈ sr'.cache.requests, (r.packets.map SrPacket.id).Pairwise (· > ·) := by
  intro r hr
  cases h.descends hO.custody.cache hr with
  | kept hr => exact hO.waiting r hr
  | pushed hr₀ hid heq =>
      rw [heq, SrArpreq.push, List.map_cons]
      refine List.pairwise_cons.mpr ⟨?_, hO.waiting _ hr₀⟩
      intro id hmem
      obtain ⟨pkt, hpkt, rfl⟩ := List.mem_map.mp hmem
      rw [hid]
      exact hO.custody.cache.pkt_lt _ hr₀ pkt hpkt
  | made _ heq =>
      rw [heq]
      exact List.pairwise_singleton _ _
  | resent hr₀ heq =>
      have hkept := hO.waiting _ hr₀
      rwa [heq]

/-- A request on the queue, or not made yet, was so before the action. -/
theorem Action.unserved_of (hI : CacheInv sr.cache) (h : Action i sr o sr') {q : ℕ}
    (hq : (∃ r ∈ sr'.cache.requests, r.id = q) ∨ sr'.cache.reqSeq ≤ q) :
    (∃ r ∈ sr.cache.requests, r.id = q) ∨ sr.cache.reqSeq ≤ q := by
  rcases hq with ⟨r, hr, rfl⟩ | hq
  · cases h.descends hI hr with
    | kept hr => exact .inl ⟨r, hr, rfl⟩
    | pushed hr₀ _ heq => exact .inl ⟨_, hr₀, by rw [heq]; rfl⟩
    | made _ heq => exact .inr (by rw [heq])
    | resent hr₀ heq => exact .inl ⟨_, hr₀, by rw [heq]; rfl⟩
  · exact .inr (h.seq_le.1.trans hq)

/-- An action keeps it. -/
theorem OrderInv.action (hO : OrderInv (tr ++ [(i, out)]) sr) (h : Action i sr o sr') :
    OrderInv (tr ++ [(i, out ++ o)]) sr' := by
  have hI := hO.custody.cache
  have hsplit : outputs (tr ++ [(i, out ++ o)]) = outputs (tr ++ [(i, out)]) ++ o := by
    simp
  have hcustody := hO.custody.action h
  constructor
  case custody => exact hcustody
  case waiting => exact hO.waiting_action h
  case arrived =>
    rw [hsplit, arrivals_append]
    rcases h.enqueued_cases with ⟨he, -⟩ | ⟨ip, pkt, he, hid, -⟩
    · rw [show arrivals o = [] by rw [arrivals, he]; rfl, List.append_nil]
      exact hO.arrived
    · rw [show arrivals o = [pkt.id] by rw [arrivals, he]; rfl]
      refine List.pairwise_append.mpr ⟨hO.arrived, List.pairwise_singleton _ _, ?_⟩
      intro a ha b hb
      obtain ⟨x, hx, rfl⟩ := List.mem_map.mp ha
      rw [List.mem_singleton.mp hb, hid]
      exact hO.custody.id_lt x hx
  case unserved =>
    intro q hq
    have hbefore := h.unserved_of hI hq
    rw [hsplit, servedOf_append, hO.unserved q hbefore, List.nil_append]
    rcases h.served_cases hI with hnone | ⟨req, hreq, hgone, hserved⟩
    · exact hnone q
    · rw [hserved, if_neg]
      rintro rfl
      rcases hq with ⟨r, hr, hid⟩ | hq
      · exact hgone r hr hid
      · exact absurd (hI.id_lt req hreq) (h.seq_le.1.trans hq).not_gt
  case served =>
    intro q
    rw [hsplit, servedOf_append]
    rcases h.served_cases hI with hnone | ⟨req, hreq, -, hserved⟩
    · rw [hnone, List.append_nil]
      exact hO.served q
    · rw [hserved]
      split_ifs with hq
      · -- the request was on the queue, so these are its first
        rw [hO.unserved q (.inl ⟨req, hreq, hq⟩), List.nil_append]
        exact hO.waiting req hreq
      · rw [List.append_nil]
        exact hO.served q

/-- It holds in every run. -/
theorem orderInv_of_run {ifList : List SrIf} {routingTable : List SrRt}
    (h : Run step (srInit ifList routingTable) tr sr) : OrderInv tr sr := by
  have hcustody : Inductive Action (srInit ifList routingTable) Custody := custody_inductive
  have hind : Inductive Action (srInit ifList routingTable) OrderInv := by
    constructor
    case init =>
      refine ⟨hcustody.init, List.Pairwise.nil, ?_, fun _ _ => rfl,
        fun _ => List.Pairwise.nil⟩
      rintro r ⟨⟩
    case input =>
      intro tr sr i hO
      have hsame : outputs (tr ++ [(i, [])]) = outputs tr := by simp
      exact ⟨hcustody.input tr sr i hO.custody, hsame ▸ hO.arrived, hO.waiting,
        hsame ▸ hO.unserved, hsame ▸ hO.served⟩
    case action =>
      intro tr i out sr o sr' hO h
      exact hO.action h
  exact hind.run step_refines h

end invariant

/-! ### The order -/

/-- Of a request's packets, those sent are packets that have been queued. -/
theorem mem_arrivals_of_served {tr : History} {sr : SrInstance} (hC : Custody tr sr) {q id : ℕ}
    (h : id ∈ servedOf q (outputs tr)) : id ∈ arrivals (outputs tr) := by
  obtain ⟨e, he, heq⟩ := List.mem_filterMap.mp h
  have hsent : ∃ x ∈ flushed (outputs tr) ++ unreachable (outputs tr), x.2.id = id := by
    unfold Effect.servedOf? at heq
    split at heq
    · split_ifs at heq
      obtain rfl := Option.some.inj heq
      exact ⟨_, List.mem_append_left _ (List.mem_filterMap.mpr ⟨_, he, rfl⟩), rfl⟩
    · split_ifs at heq
      obtain rfl := Option.some.inj heq
      exact ⟨_, List.mem_append_right _ (List.mem_filterMap.mpr ⟨_, he, rfl⟩), rfl⟩
    · cases heq
  obtain ⟨x, hx, rfl⟩ := hsent
  refine List.mem_map_of_mem (f := fun x => x.2.id) (hC.account.mem_iff.mpr ?_)
  rw [List.append_assoc]
  exact List.mem_append_right _ hx

/-- **Newest first.** In every run, of two packets of one request that have been flushed or
answered, the one that was queued later has left first; and none of its packets leaves a request
while it is on the queue. -/
theorem served_reversed {ifList : List SrIf} {routingTable : List SrRt} {tr : History}
    {sr : SrInstance} (h : Run step (srInit ifList routingTable) tr sr) (q : ℕ) :
    ((servedOf q (outputs tr)).Pairwise fun a b => [b, a].Sublist (arrivals (outputs tr))) ∧
      ((∃ r ∈ sr.cache.requests, r.id = q) → servedOf q (outputs tr) = []) := by
  have hO := orderInv_of_run h
  refine ⟨?_, fun hr => hO.unserved q (.inl hr)⟩
  refine (hO.served q).imp_of_mem ?_
  intro a b ha hb hlt
  have hsub : [b, a] ⊆ arrivals (outputs tr) := by
    intro x hx
    rcases List.mem_pair.mp hx with rfl | rfl
    · exact mem_arrivals_of_served hO.custody hb
    · exact mem_arrivals_of_served hO.custody ha
  have hpair : [b, a].Pairwise (· < ·) := List.pairwise_pair.mpr hlt
  exact List.sublist_of_subperm_of_pairwise (List.subperm_of_subset hpair.nodup hsub) hpair
    hO.arrived

/-- Two packets for one next hop, and its reply: the second goes first. -/
theorem served_reversed_twoPort : ∃ tr sr, Run step twoPort tr sr ∧
    arrivals (outputs tr) = [0, 1] ∧ servedOf 0 (outputs tr) = [1, 0] ∧
    (servedOf 0 (outputs tr)).Pairwise fun a b => [b, a].Sublist (arrivals (outputs tr)) := by
  obtain ⟨tr, sr, hrun, -, htest⟩ := exists_run step twoPort
    [firstArrival, firstArrival, replyArrival (ethName 2)]
    (fun _ tr => arrivals (outputs tr) = [0, 1] ∧ servedOf 0 (outputs tr) = [1, 0])
    (by decide +kernel)
  obtain ⟨harrived, hserved⟩ := of_decide_eq_true htest
  exact ⟨tr, sr, hrun, harrived, hserved, (served_reversed hrun 0).1⟩

end SimpleRouter
