import SimpleRouter.Nodes

/-!
# Memory safety

The router over nodes against the router on its queue.

* `Agrees` — the two do the same, or the former faults; and then the latter faults as well, or has
  read a request it had freed.
* `Holds.handleArpreq`, `.sweepFrom`, `.handleIpPacket`, `.handleArpPacket`, `nodeStep_agrees` —
  **each handler agrees**, from memory that holds a queue.
* `memory_safe_iff` — **along every run**: the router over nodes gets through exactly the runs on
  the queue in which no freed request is read, with the same effects. No packet or request is freed
  twice or read after it is freed, and none leaks.
-/

namespace SimpleRouter

open Machine

namespace NodeInstance

variable {h h' : NodeInstance} {env : Env} {reqs queue : List SrArpreq} {req : SrArpreq}

/-! ### A request is handled -/

/-- No freed request is read. -/
def NoDangling (out : List Effect) : Prop := ∀ req, .danglingRead req ∉ out

/-- A function over nodes against the function of the router: they do the same, and the memory
holds the queue after it, or the former faults, and the latter faults or reads a freed request. -/
def Agrees (x : Except WalkStop (NodeInstance × List Effect))
    (y : Except Fault (SrInstance × List Effect)) : Prop :=
  (∃ h reqs out, x = .ok (h, out) ∧ y = .ok (h.sr.withQueue reqs, out) ∧ h.Holds reqs ∧
      NoDangling out) ∨
    (∃ f, x = .error (.fault f)) ∧ ∀ r, y = .ok r → ¬ NoDangling r.2

/-- What `handle_arpreq` has done to a request that stays, and to one it gives up. -/
def Handled (h h' : NodeInstance) (req : SrArpreq) (reqs reqs' : List SrArpreq) : Prop :=
  (∃ f, (∀ r : SrArpreq, (f r).id = r.id) ∧ reqs' = Keyed.modify SrArpreq.id req.id f reqs ∧
      ∀ next, h.reqs req.id = some ⟨req.node, next⟩ →
        ∃ node, h'.reqs = Function.update h.reqs req.id (some ⟨node, next⟩)) ∨
    reqs' = Keyed.erase SrArpreq.id req.id reqs ∧ h'.reqs req.id = none

/-- A loop that only sends reads nothing dangling. -/
theorem sends_noDangling {α : Type} {f : α → Except Fault Effect} {l : List α} {out : List Effect}
    (hout : l.mapM f = .ok out)
    (hsend : ∀ a e, f a = .ok e → ∃ caller buf iface, e = .send caller buf iface) :
    NoDangling out := by
  intro req hmem
  obtain ⟨a, -, ha⟩ := exists_round (mapM_ok_iff.mp hout) hmem
  obtain ⟨_, _, _, he⟩ := hsend a _ ha
  cases he

/-- **`handle_arpreq` on a node is `handle_arpreq` on the queue.** -/
theorem Holds.handleArpreq (hh : h.Holds reqs) (env : Env) (hreq : req ∈ reqs) :
    (∃ h' reqs' out, h.handleArpreq env req.id = .ok (h', out) ∧
        SimpleRouter.handleArpreq (h.sr.withQueue reqs) env req.id =
          .ok (h.sr.withQueue reqs', out) ∧
        h'.sr = h.sr ∧ h'.Holds reqs' ∧ NoDangling out ∧ Handled h h' req reqs reqs') ∨
      ∃ f, h.handleArpreq env req.id = .error (.fault f) ∧
        SimpleRouter.handleArpreq (h.sr.withQueue reqs) env req.id = .error f := by
  obtain ⟨next, hcell⟩ := hh.cell_of_mem hreq
  have hfind : Keyed.find SrArpreq.id req.id (h.sr.withQueue reqs).cache.requests = some req :=
    (Keyed.find_eq_some_iff hh.id_nodup).mpr ⟨hreq, rfl⟩
  unfold SimpleRouter.handleArpreq NodeInstance.handleArpreq
  rw [read_eq hcell, hfind]
  simp only [bind, Except.bind]
  by_cases hdue : env.clock req.id - req.sent ≥ 1
  case neg =>
    have hdue' : ¬ env.clock req.id - req.node.sent ≥ 1 := hdue
    rw [if_neg hdue, if_neg hdue']
    refine .inl ⟨h, reqs, [], rfl, rfl, rfl, hh, fun _ => List.not_mem_nil, .inl
      ⟨id, fun _ => rfl, ?_, fun next hnext => ⟨req.node, ?_⟩⟩⟩
    · rw [Keyed.modify]
      simp
    · rw [← hnext, Function.update_eq_self]
  have hdue' : env.clock req.id - req.node.sent ≥ 1 := hdue
  rw [if_pos hdue, if_pos hdue']
  by_cases htimes : req.timesSent ≥ 5
  · have htimes' : req.node.timesSent ≥ 5 := htimes
    rw [if_pos htimes, if_pos htimes', hh.contents hreq]
    simp only [walk, node_request]
    have hsend : srSendIcmpT3 (h.sr.withQueue reqs) = srSendIcmpT3 h.sr := rfl
    rw [hsend]
    cases hout : req.packets.mapM (srSendIcmpT3 h.sr env req) with
    | error f => exact .inr ⟨f, rfl, rfl⟩
    | ok out =>
        obtain ⟨h', hdestroy, hsr, hfreed, hh'⟩ := hh.arpreqDestroy hreq (List.Sublist.refl _)
          hh.reqs_seg rfl
        refine .inl ⟨h', _, out, ?_, rfl, hsr, hh', ?_, .inr ⟨rfl, hfreed⟩⟩
        · simp only [Except.mapError, hdestroy]
        · refine sends_noDangling hout fun pkt e he => ?_
          obtain ⟨iface, -, he⟩ := ok_bind_iff.mp he
          exact ⟨_, _, _, (Except.ok.inj he).symm⟩
  · have htimes' : ¬ req.node.timesSent ≥ 5 := htimes
    rw [if_neg htimes, if_neg htimes']
    have hget : srGetInterface (h.sr.withQueue reqs) = srGetInterface h.sr := rfl
    rw [hget]
    cases hhead : req.packets.head? with
    | none =>
        have hnull : req.node.packets = none := by rw [SrArpreq.node, hhead, Option.map_none]
        rw [hnull]
        exact .inr ⟨.nullDeref, rfl, rfl⟩
    | some pkt =>
        have hfirst : req.node.packets = some pkt.id := by
          rw [SrArpreq.node, hhead, Option.map_some]
        obtain ⟨after, hpkt⟩ := hh.head_cell hreq hhead
        rw [hfirst]
        simp only [deref, Except.mapError, read_eq hpkt]
        cases hiface : srGetInterface h.sr pkt.iface with
        | none => exact .inr ⟨.nullDeref, rfl, rfl⟩
        | some iface =>
            refine .inl ⟨h.write req.id ⟨req.node.resend (env.clock req.id), next⟩,
              Keyed.modify SrArpreq.id req.id (SrArpreq.resend (env.clock req.id)) reqs,
              [.send (.arpRequest req.id (env.clock req.id)) (createArpRequest iface req.ip)
                pkt.iface], ?_, ?_, rfl, hh.resend hcell _, ?_,
              .inl ⟨SrArpreq.resend (env.clock req.id), fun _ => rfl, rfl,
                fun next' hnext => ⟨req.node.resend (env.clock req.id), ?_⟩⟩⟩
            · rfl
            · rfl
            · simp [NoDangling]
            · obtain rfl : next = next' := by simpa using hcell.symm.trans hnext
              rfl

/-! ### The sweep -/

/-- Nor do two parts one after the other. -/
theorem NoDangling.append {out out' : List Effect} (hout : NoDangling out)
    (hout' : NoDangling out') : NoDangling (out ++ out') := by
  intro req hmem
  rcases List.mem_append.mp hmem with hmem | hmem
  · exact hout req hmem
  · exact hout' req hmem

/-- More effects in front. -/
theorem Agrees.prepend {x : Except WalkStop (NodeInstance × List Effect)}
    {y : Except Fault (SrInstance × List Effect)} (hA : Agrees x y) (out : List Effect)
    (hout : NoDangling out) :
    Agrees (x >>= fun r => .ok (r.1, out ++ r.2)) (y >>= fun r => .ok (r.1, out ++ r.2)) := by
  obtain ⟨h, reqs, out', rfl, rfl, hh, hout'⟩ | ⟨⟨f, rfl⟩, hy⟩ := hA
  · exact .inl ⟨h, reqs, out ++ out', rfl, rfl, hh, hout.append hout'⟩
  · refine .inr ⟨⟨f, rfl⟩, fun r hr hquiet => ?_⟩
    obtain ⟨r', hr', h⟩ := ok_bind_iff.mp hr
    obtain rfl := Except.ok.inj h
    exact hy r' hr' fun req hmem => hquiet req (List.mem_append_right _ hmem)

/-- A sweep of the queue whose first request has been handled. -/
theorem sweepLoop_of_handled {sr sr₁ : SrInstance} {out : List Effect} {id : ℕ} {ids : List ℕ}
    (h : SimpleRouter.handleArpreq sr env id = .ok (sr₁, out)) :
    sweepLoop env (id :: ids) sr = sweepLoop env ids sr₁ >>= fun r =>
      .ok (r.1, (out ++ if ∃ req ∈ sr₁.cache.requests, req.id = id then []
        else [.danglingRead id]) ++ r.2) := by
  rw [sweepLoop, h]
  rfl

/-- The sweep from a request of the queue on. -/
theorem Holds.sweepFrom {n : ℕ} {p : Option ℕ} (hh : h.Holds reqs)
    (hseg : Linked.Seg ReqNode.id h.reqs p (queue.map SrArpreq.node) none)
    (hnd : (queue.map SrArpreq.id).Nodup) (hsub : ∀ r ∈ queue, r ∈ reqs)
    (hn : queue.length ≤ n) :
    Agrees (NodeInstance.sweepFrom env n h p)
      (sweepLoop env (queue.map SrArpreq.id) (h.sr.withQueue reqs)) := by
  induction queue generalizing h reqs p n with
  | nil =>
      obtain rfl := hseg
      refine .inl ⟨h, reqs, [], ?_, rfl, hh, fun _ => List.not_mem_nil⟩
      rw [NodeInstance.sweepFrom]
  | cons req queue ih =>
      obtain ⟨rfl, next, hcell, hseg⟩ := hseg
      obtain ⟨n, rfl⟩ := Nat.exists_eq_succ_of_ne_zero (Nat.ne_zero_of_lt hn)
      obtain ⟨hne, hnd⟩ := Keyed.nodup_map_cons.mp hnd
      obtain ⟨hreq, hsub⟩ := List.forall_mem_cons.mp hsub
      rw [NodeInstance.sweepFrom, List.map_cons]
      obtain ⟨h₁, reqs₁, out, hnode, hqueue, hsr, hh₁, hout, hhandled⟩ | ⟨f, hnode, hqueue⟩ :=
        hh.handleArpreq env hreq
      · have hnode' : h.handleArpreq env req.node.id = .ok (h₁, out) := hnode
        rw [hnode', sweepLoop_of_handled hqueue]
        obtain ⟨f, hf, rfl, hkept⟩ | ⟨rfl, hfreed⟩ := hhandled
        · -- the request stays, and points where it did
          obtain ⟨node, hreqs⟩ := hkept next hcell
          have hread : read h₁.reqs req.node.id = .ok ⟨node, next⟩ := by
            refine read_eq ?_
            rw [hreqs]
            exact Function.update_self ..
          have hids : (Keyed.modify SrArpreq.id req.id f reqs).map SrArpreq.id =
              reqs.map SrArpreq.id := Keyed.map_modify hf
          have hlive : ∃ r ∈ (h.sr.withQueue
              (Keyed.modify SrArpreq.id req.id f reqs)).cache.requests, r.id = req.id :=
            List.mem_map.mp (hids.symm ▸ List.mem_map_of_mem hreq)
          have hseg₁ : Linked.Seg ReqNode.id h₁.reqs next (queue.map SrArpreq.node) none := by
            rw [hreqs]
            refine hseg.update_of_ne (fun node hmem => ?_) _
            obtain ⟨r, hr, rfl⟩ := List.mem_map.mp hmem
            exact hne r hr
          have hsub₁ : ∀ r ∈ queue, r ∈ Keyed.modify SrArpreq.id req.id f reqs := by
            intro r hr
            have hfind := (Keyed.find_eq_some_iff hh.id_nodup).mpr ⟨hreq, rfl⟩
            exact (Keyed.mem_modify_iff hh.id_nodup hfind).mpr (.inr ⟨hsub r hr, hne r hr⟩)
          have hA := (ih hh₁ hseg₁ hnd hsub₁ (Nat.le_of_succ_le_succ hn)).prepend out hout
          rw [hsr] at hA
          rw [if_pos hlive, List.append_nil]
          simp only [bind, Except.bind, hread] at hA ⊢
          exact hA
        · -- the request is freed, and then read
          have hread : read h₁.reqs req.node.id = .error (.fault .useAfterFree) :=
            read_none hfreed
          have hdead : ¬ ∃ r ∈ (h.sr.withQueue
              (Keyed.erase SrArpreq.id req.id reqs)).cache.requests, r.id = req.id := by
            rintro ⟨r, hr, hid⟩
            exact ((Keyed.mem_erase_iff hh.id_nodup).mp hr).2 hid
          rw [if_neg hdead]
          refine .inr ⟨⟨.useAfterFree, ?_⟩, fun r hr hquiet => hquiet req.id ?_⟩
          · simp only [bind, Except.bind, hread]
          · obtain ⟨r', -, hr⟩ := ok_bind_iff.mp hr
            obtain rfl := Except.ok.inj hr
            simp
      · have hnode' : h.handleArpreq env req.node.id = .error (.fault f) := hnode
        rw [hnode', sweepLoop, hqueue]
        exact .inr ⟨⟨f, rfl⟩, fun r hr => by cases hr⟩

/-- A timer iteration. -/
theorem Holds.arpcacheTimeout (hh : h.Holds reqs) (env : Env) :
    Agrees (h.arpcacheTimeout env) (srArpcacheTimeout (h.sr.withQueue reqs) env) := by
  have hh' := hh.withSr { h.sr with cache := h.sr.cache.expire env.now } le_rfl le_rfl
  exact hh'.sweepFrom hh'.reqs_seg hh'.id_nodup (fun _ hr => hr) hh'.length_le

/-! ### A frame arrives -/

/-- A reply on the nodes is a reply on the queue. -/
theorem Holds.handleReply {buf : List UInt8} {interface : IfaceName} (hh : h.Holds reqs)
    (hop : arOp buf env.after = 2) :
    Agrees (h.handleArpPacket env buf interface)
      (SimpleRouter.handleArpPacket (h.sr.withQueue reqs) env buf interface) := by
  obtain ⟨h₁, hinsert, hsr, hO, hseg⟩ :=
    hh.insert (arSha buf env.after) (arSip buf env.after) env.now
  unfold NodeInstance.handleArpPacket SimpleRouter.handleArpPacket
  rw [if_pos hop, if_neg (by rw [hop]; decide), if_pos hop, hinsert]
  dsimp only [srArpcacheInsert]
  have hqueue : (h.sr.withQueue reqs).cache.requests = reqs := rfl
  rw [hqueue]
  cases hfind : Keyed.find SrArpreq.ip (arSip buf env.after) reqs with
  | none =>
      have hself := Keyed.erase_eq_self (Keyed.find_eq_none_iff.mp hfind)
      rw [hself] at hseg
      refine .inl ⟨h₁, reqs, [], rfl, ?_, ⟨hO, hseg⟩, fun _ => List.not_mem_nil⟩
      simp only [hself, hsr]
      rfl
  | some req =>
      have hreq : req ∈ reqs := Keyed.mem_of_find hfind
      have hid : Keyed.erase SrArpreq.id req.id reqs =
          Keyed.erase SrArpreq.ip (arSip buf env.after) reqs :=
        Keyed.erase_eq_eraseP hh.id_nodup hfind
      -- the request is not on the queue any more
      have hgone : Keyed.erase SrArpreq.id req.id
          (Keyed.erase SrArpreq.ip (arSip buf env.after) reqs) =
            Keyed.erase SrArpreq.id req.id reqs := by
        rw [← hid]
        exact Keyed.erase_eq_self fun r hr => ((Keyed.mem_erase_iff hh.id_nodup).mp hr).2
      obtain ⟨next, hcell⟩ := hO.cell_of_mem hreq
      obtain ⟨h₂, hdestroy, hsr₂, -, hh₂⟩ :=
        hO.arpreqDestroy hreq Keyed.erase_sublist hseg hgone
      simp only [bind, Except.bind, Option.map_some, read_eq hcell, hO.contents hreq, walk,
        node_request]
      have hget : srGetInterface (h.sr.withQueue reqs) interface =
          srGetInterface h.sr interface := rfl
      rw [hget]
      cases hout : req.packets.mapM
          (flushPacket (srGetInterface h.sr interface) (arSha buf env.after) req) with
      | error f => exact .inr ⟨⟨f, rfl⟩, fun r hr => by cases hr⟩
      | ok out =>
          refine .inl ⟨h₂, _, out, ?_, ?_, hh₂, ?_⟩
          · simp only [Except.mapError, hdestroy]
          · rw [hsr₂, hsr, ← hgone]
            rfl
          · refine sends_noDangling hout fun pkt e he => ?_
            obtain ⟨iface, -, he⟩ := ok_bind_iff.mp he
            exact ⟨_, _, _, (Except.ok.inj he).symm⟩

/-- What does not touch the queue. -/
theorem Holds.untouched (hh : h.Holds reqs) {y : Except Fault (SrInstance × List Effect)}
    (hy : ∀ sr out, y = .ok (sr, out) → NoDangling out) :
    Agrees (y.mapError .fault >>= fun r => .ok (h, r.2))
      (y >>= fun r => .ok (h.sr.withQueue reqs, r.2)) := by
  cases y with
  | error f => exact .inr ⟨⟨f, rfl⟩, fun r hr => by cases hr⟩
  | ok r => exact .inl ⟨h, reqs, r.2, rfl, rfl, hh, hy r.1 r.2 rfl⟩

/-- An ARP packet. -/
theorem Holds.handleArpPacket (hh : h.Holds reqs) (env : Env) (buf : List UInt8)
    (interface : IfaceName) :
    Agrees (h.handleArpPacket env buf interface)
      (SimpleRouter.handleArpPacket (h.sr.withQueue reqs) env buf interface) := by
  by_cases hop : arOp buf env.after = 2
  · exact hh.handleReply hop
  · have hqueue : SimpleRouter.handleArpPacket (h.sr.withQueue reqs) env buf interface =
        SimpleRouter.handleArpPacket h.sr env buf interface >>= fun r =>
          .ok (h.sr.withQueue reqs, r.2) := by
      have hget : srGetInterface (h.sr.withQueue reqs) interface =
          srGetInterface h.sr interface := rfl
      unfold SimpleRouter.handleArpPacket
      rw [if_neg hop, if_neg hop, hget]
      by_cases hrequest : arOp buf env.after = 1
      · rw [if_pos hrequest, if_pos hrequest]
        cases deref (srGetInterface h.sr interface) with
        | error f => rfl
        | ok iface =>
            simp only [bind, Except.bind]
            split_ifs <;> rfl
      · rw [if_neg hrequest, if_neg hrequest]
        rfl
    unfold NodeInstance.handleArpPacket
    rw [if_neg hop, hqueue]
    refine hh.untouched fun sr out h => ?_
    obtain ⟨-, rfl | ⟨iface, -, -, rfl⟩⟩ := handleArpPacket_request hop h
    · exact fun _ => List.not_mem_nil
    · simp [NoDangling]

/-- `handle_arpreq` on a request of the queue. -/
theorem Holds.handleArpreq_agrees (hh : h.Holds reqs) (env : Env) (hreq : req ∈ reqs) :
    Agrees (h.handleArpreq env req.id)
      (SimpleRouter.handleArpreq (h.sr.withQueue reqs) env req.id) := by
  obtain ⟨h', reqs', out, hnode, hqueue, hsr, hh', hout, -⟩ | ⟨f, hnode, hqueue⟩ :=
    hh.handleArpreq env hreq
  · exact .inl ⟨h', reqs', out, hnode, hsr ▸ hqueue, hh', hout⟩
  · refine .inr ⟨⟨f, hnode⟩, fun r hr => ?_⟩
    rw [hqueue] at hr
    cases hr

/-- An IP packet. -/
theorem Holds.handleIpPacket (hh : h.Holds reqs) (env : Env) (buf : List UInt8)
    (interface : IfaceName) :
    Agrees (h.handleIpPacket env buf interface)
      (SimpleRouter.handleIpPacket (h.sr.withQueue reqs) env buf interface) := by
  have hverdict : ipPacketVerdict (h.sr.withQueue reqs) buf = ipPacketVerdict h.sr buf := rfl
  by_cases hqueued : ∃ packet rt, ipPacketVerdict h.sr buf = .ok (.queue packet rt)
  · obtain ⟨packet, rt, hq⟩ := hqueued
    obtain ⟨h₁, reqs₁, req, hnode, hh₁, hreq, hid, hsr⟩ :=
      hh.queuereq rt.gw packet rt.interface
    have hA := (hh₁.handleArpreq_agrees env hreq).prepend
      [.enqueue rt.gw (h.sr.cache.newPacket packet rt.interface)] (by simp [NoDangling])
    rw [← hsr, ← hid] at hA
    unfold NodeInstance.handleIpPacket SimpleRouter.handleIpPacket
    rw [hverdict, hq]
    simp only [bind, Except.bind, Except.mapError, hnode, ← hid] at hA ⊢
    exact hA
  · have hqueue : SimpleRouter.handleIpPacket (h.sr.withQueue reqs) env buf interface =
        SimpleRouter.handleIpPacket h.sr env buf interface >>= fun r =>
          .ok (h.sr.withQueue reqs, r.2) := by
      unfold SimpleRouter.handleIpPacket
      rw [hverdict]
      cases hv : ipPacketVerdict h.sr buf with
      | error f => rfl
      | ok verdict =>
          cases verdict with
          | drop => rfl
          | respond packet type code ipInterface =>
              have hsend : sendIcmpResponse (h.sr.withQueue reqs) env packet interface type code
                  ipInterface = sendIcmpResponse h.sr env packet interface type code ipInterface :=
                rfl
              simp only [bind, Except.bind, hsend]
              cases sendIcmpResponse h.sr env packet interface type code ipInterface <;> rfl
          | forward packet rt entry =>
              have hget : srGetInterface (h.sr.withQueue reqs) rt.interface =
                  srGetInterface h.sr rt.interface := rfl
              simp only [bind, Except.bind, hget]
              cases deref (srGetInterface h.sr rt.interface) <;> rfl
          | queue packet rt => exact absurd ⟨packet, rt, hv⟩ hqueued
    have hnode : NodeInstance.handleIpPacket h env buf interface =
        (SimpleRouter.handleIpPacket h.sr env buf interface).mapError .fault >>= fun r =>
          .ok (h, r.2) := by
      unfold NodeInstance.handleIpPacket
      cases hv : ipPacketVerdict h.sr buf with
      | error f =>
          unfold SimpleRouter.handleIpPacket
          rw [hv]
          rfl
      | ok verdict =>
          cases verdict with
          | queue packet rt => exact absurd ⟨packet, rt, hv⟩ hqueued
          | _ => rfl
    rw [hqueue, hnode]
    refine hh.untouched fun sr out h => ?_
    obtain ⟨-, rfl⟩ | ⟨_, _, _, _, _, -, -, -, -, rfl⟩ | ⟨_, _, _, _, -, -, -, rfl⟩ |
      ⟨packet, rt, -, hv, -⟩ := handleIpPacket_cases h
    · exact fun _ => List.not_mem_nil
    · simp [NoDangling]
    · simp [NoDangling]
    · exact absurd ⟨packet, rt, hv⟩ hqueued

end NodeInstance

/-! ### Runs -/

open NodeInstance

/-- **One step.** -/
theorem nodeStep_agrees {h : NodeInstance} {reqs : List SrArpreq} (hh : h.Holds reqs) (i : Input) :
    Agrees (nodeStep h i) (step (h.sr.withQueue reqs) i) := by
  obtain ⟨env, event⟩ := i
  cases event with
  | packet buf interface =>
      unfold nodeStep step handlepacket srHandlepacket
      dsimp only
      split_ifs
      · exact hh.handleIpPacket env buf interface
      · exact hh.handleArpPacket env buf interface
      · exact .inl ⟨h, reqs, [], rfl, rfl, hh, fun _ => List.not_mem_nil⟩
  | timer => exact hh.arpcacheTimeout env
  | arpreq id =>
      by_cases hlive : ∃ req ∈ reqs, req.id = id
      · obtain ⟨req, hreq, rfl⟩ := hlive
        exact hh.handleArpreq_agrees env hreq
      · have hfree : h.reqs id = none := by
          refine hh.reqs_owns.free_of fun node hnode hid => hlive ?_
          obtain ⟨req, hreq, rfl⟩ := List.mem_map.mp hnode
          exact ⟨req, hreq, hid⟩
        have hfind : Keyed.find SrArpreq.id id (h.sr.withQueue reqs).cache.requests = none :=
          Keyed.find_eq_none_iff.mpr fun req hreq hid => hlive ⟨req, hreq, hid⟩
        refine .inr ⟨⟨.useAfterFree, ?_⟩, fun r hr => ?_⟩
        · have hnode : h.handleArpreq env id = .error (.fault .useAfterFree) := by
            unfold NodeInstance.handleArpreq
            rw [read_none hfree]
            rfl
          exact hnode
        · have hqueue : SimpleRouter.handleArpreq (h.sr.withQueue reqs) env id =
              .error .useAfterFree := by
            unfold SimpleRouter.handleArpreq
            rw [hfind]
          cases hqueue.symm.trans hr

/-- No node is allocated. -/
theorem holds_nodeInit (ifList : List SrIf) (routingTable : List SrRt) :
    (nodeInit ifList routingTable).Holds [] := by
  constructor
  constructor
  case id_nodup => exact List.nodup_nil
  case id_lt => exact fun req hreq => absurd hreq List.not_mem_nil
  case pkt_nodup => exact List.nodup_nil
  case pkt_lt => exact fun pkt hpkt => absurd hpkt List.not_mem_nil
  case reqs_owns => exact Linked.owns_nil
  case pkts_owns => exact Linked.owns_nil
  case pkts_seg => exact fun req hreq => absurd hreq List.not_mem_nil
  case reqs_seg => rfl

section runs

variable {ifList : List SrIf} {routingTable : List SrRt} {tr : History}

/-- A run on nodes is a run on the queue, without a dangling read. -/
theorem run_of_nodeRun {h : NodeInstance}
    (hrun : Run nodeStep (nodeInit ifList routingTable) tr h) :
    ∃ reqs, Run step (srInit ifList routingTable) tr (h.sr.withQueue reqs) ∧ h.Holds reqs ∧
      NoDangling (outputs tr) := by
  induction hrun with
  | nil => exact ⟨[], .nil, holds_nodeInit ifList routingTable, fun _ => List.not_mem_nil⟩
  | @snoc tr h h' i out _ hs ih =>
      obtain ⟨reqs, hrun, hh, hquiet⟩ := ih
      obtain ⟨h₁, reqs₁, out₁, hnode, hqueue, hh₁, hout⟩ | ⟨⟨f, hnode⟩, -⟩ := nodeStep_agrees hh i
      · obtain ⟨rfl, rfl⟩ := Prod.mk.inj (Except.ok.inj (hs.symm.trans hnode))
        refine ⟨reqs₁, hrun.snoc hqueue, hh₁, ?_⟩
        rw [outputs_snoc]
        exact hquiet.append hout
      · rw [hnode] at hs
        cases hs

/-- A run on the queue without a dangling read is one on nodes. -/
theorem nodeRun_of_run {sr : SrInstance} (hrun : Run step (srInit ifList routingTable) tr sr)
    (hquiet : NoDangling (outputs tr)) :
    ∃ h reqs, Run nodeStep (nodeInit ifList routingTable) tr h ∧ sr = h.sr.withQueue reqs ∧
      h.Holds reqs := by
  induction hrun with
  | nil => exact ⟨nodeInit ifList routingTable, [], .nil, rfl, holds_nodeInit ifList routingTable⟩
  | @snoc tr sr sr' i out _ hs ih =>
      rw [outputs_snoc] at hquiet
      obtain ⟨h, reqs, hrun, rfl, hh⟩ := ih fun req hmem => hquiet req (List.mem_append_left _ hmem)
      obtain ⟨h₁, reqs₁, out₁, hnode, hqueue, hh₁, -⟩ | ⟨-, hdangling⟩ := nodeStep_agrees hh i
      · obtain ⟨rfl, rfl⟩ := Prod.mk.inj (Except.ok.inj (hs.symm.trans hqueue))
        exact ⟨h₁, reqs₁, hrun.snoc hnode, rfl, hh₁⟩
      · exact absurd (fun req hmem => hquiet req (List.mem_append_right _ hmem))
          (hdangling _ hs)

/-- **When memory is used safely, and what is in it.** A run over nodes is a run on the queue in
which no freed request is read; its nodes hold that run's queue, and nothing else is allocated. -/
theorem memory_safe_iff (ifList : List SrIf) (routingTable : List SrRt) (tr : History) :
    ((∃ h, Run nodeStep (nodeInit ifList routingTable) tr h) ↔
      (∃ sr, Run step (srInit ifList routingTable) tr sr) ∧ NoDangling (outputs tr)) ∧
    ∀ h, Run nodeStep (nodeInit ifList routingTable) tr h →
      ∃ reqs, Run step (srInit ifList routingTable) tr (h.sr.withQueue reqs) ∧ h.Holds reqs := by
  refine ⟨⟨?_, ?_⟩, ?_⟩
  · rintro ⟨h, hrun⟩
    obtain ⟨reqs, hrun, -, hquiet⟩ := run_of_nodeRun hrun
    exact ⟨⟨_, hrun⟩, hquiet⟩
  · rintro ⟨⟨sr, hrun⟩, hquiet⟩
    obtain ⟨h, -, hrun, -⟩ := nodeRun_of_run hrun hquiet
    exact ⟨h, hrun⟩
  · intro h hrun
    obtain ⟨reqs, hrun, hh, -⟩ := run_of_nodeRun hrun
    exact ⟨reqs, hrun, hh⟩

/-- A packet waits for a reply, which arrives: no node is left. -/
example : okAnd (exec nodeStep (nodeInit [ethIf 1, ethIf 2] [netRoute])
    [firstArrival, replyArrival (ethName 2)]) (fun r => r.1.requests.isNone &&
      r.1.sr.cache.reqSeq = 1 && (r.1.reqs 0).isNone && (r.1.pkts 0).isNone) = true := by
  decide +kernel

end runs

end SimpleRouter
